import Imageboard.Proofs.Site.Erlach.Answers

/-! What the posts of an erlach page have, and from which tags.

A block begins no post where one is in progress: it changes the number of that one, which goes on
with its images and its date. So a post has what was read since another was completed
(`data_of_posts`), and a block without a message leaves its images and its date to the next. -/
namespace Imageboard.Erlach
open Reading

/-- The attachment that an image is before its size is told. -/
def imageOf (locator : Locator) (v : Visit) : Attachment where
  file := locator.address? (v.attributes.getD "src")
  thumbnail := (thumbnailOf? (v.attributes.getD "src")).bind locator.address?

/-- An attachment of the size that a canvas tells. -/
def sized (v : Visit) (a : Attachment) : Attachment :=
  { a with
    width := (Numeral.lenientUInt32? (v.attributes.getD "width")).getD 0
    height := (Numeral.lenientUInt32? (v.attributes.getD "height")).getD 0 }

/-- The moment that a tag tells. -/
def moment? (v : Visit) : Option Int64 := Numeral.lenientInt64? (v.attributes.getD "data-ts")

/-! ### Tags -/

section
variable {v : Visit} {r : Reading}

theorem locator_apply (hv : v.MadeIn (Sheet.table sheet) r) :
    (v.apply (Sheet.table sheet) r).locator = r.locator := by
  have hanswer := answer_of_made hv
  generalize v.apply (Sheet.table sheet) r = r' at hanswer ⊢
  cases hanswer with
  | title => unfold contentTitle; split <;> rfl
  | image => unfold image; split <;> rfl
  | message => unfold message; split <;> rfl
  | counter => unfold counter; split <;> rfl
  | block | topic | timestamp | canvas | omitted | header => rfl

/-- An image is kept at once, where a post is in progress, and a canvas tells the size of the image
kept last. -/
theorem committed_apply (hv : v.MadeIn (Sheet.table sheet) r) :
    (v.apply (Sheet.table sheet) r).slot.committed =
      if isImage v && r.post.isSome then r.slot.committed ++ [imageOf r.locator v]
      else if isCanvas v then
        r.slot.committed.modify (r.slot.committed.length - 1) (sized v)
      else if isMessage v && r.post.isSome then []
      else r.slot.committed := by
  have hother (himage : v.rule ≠ 4) (hcanvas : v.rule ≠ 5) (hmessage : v.rule ≠ 7) :
      (if isImage v && r.post.isSome then r.slot.committed ++ [imageOf r.locator v]
        else if isCanvas v then
          r.slot.committed.modify (r.slot.committed.length - 1) (sized v)
        else if isMessage v && r.post.isSome then []
        else r.slot.committed) = r.slot.committed := by
    simp [eq_false_of_ne (isImage_iff v) himage, eq_false_of_ne (isCanvas_iff v) hcanvas,
      eq_false_of_ne (isMessage_iff v) hmessage]
  have hanswer := answer_of_made hv
  generalize v.apply (Sheet.table sheet) r = r' at hanswer ⊢
  cases hanswer with
  | image h =>
    rw [(isImage_iff v).mpr h, eq_false_of_ne (isCanvas_iff v) (by omega),
      eq_false_of_ne (isMessage_iff v) (by omega)]
    unfold image
    cases r.post <;> rfl
  | canvas h =>
    rw [eq_false_of_ne (isImage_iff v) (by omega), (isCanvas_iff v).mpr h]
    rfl
  | message h comment =>
    rw [eq_false_of_ne (isImage_iff v) (by omega), eq_false_of_ne (isCanvas_iff v) (by omega),
      (isMessage_iff v).mpr h]
    unfold message
    cases r.post <;> rfl
  | title h =>
    rw [hother (by omega) (by omega) (by omega)]
    unfold contentTitle
    split <;> rfl
  | counter h =>
    rw [hother (by omega) (by omega) (by omega)]
    unfold counter
    split <;> rfl
  | omitted h => rw [hother (by omega) (by omega) (by omega)]
  | block h | topic h | timestamp h | header h =>
    rw [hother (by omega) (by omega) (by omega)]
    rfl

/-- Only a date changes the moment of the post in progress, which is another one behind a message
and behind the title of a page that is read for its posts. -/
theorem timestamp_apply (hv : v.MadeIn (Sheet.table sheet) r) :
    (v.apply (Sheet.table sheet) r).post.bind (·.timestamp) =
      if isTitle v && !r.collector.groupsThreads || isMessage v && r.post.isSome then none
      else if isTimestamp v && r.post.isSome then moment? v
      else r.post.bind (·.timestamp) := by
  have hother (htitle : v.rule ≠ 0) (hdate : v.rule ≠ 3) (hmessage : v.rule ≠ 7) :
      (if isTitle v && !r.collector.groupsThreads || isMessage v && r.post.isSome then none
        else if isTimestamp v && r.post.isSome then moment? v
        else r.post.bind (·.timestamp)) = r.post.bind (·.timestamp) := by
    simp [eq_false_of_ne (isTitle_iff hv) htitle, eq_false_of_ne (isTimestamp_iff v) hdate,
      eq_false_of_ne (isMessage_iff v) hmessage]
  have hanswer := answer_of_made hv
  generalize v.apply (Sheet.table sheet) r = r' at hanswer ⊢
  cases hanswer with
  | title h text =>
    rw [(isTitle_iff hv).mpr h, eq_false_of_ne (isMessage_iff v) (by omega),
      eq_false_of_ne (isTimestamp_iff v) (by omega)]
    unfold contentTitle
    cases hgroups : r.collector.groupsThreads <;> simp
  | timestamp h =>
    rw [eq_false_of_ne (isTitle_iff hv) (by omega), eq_false_of_ne (isMessage_iff v) (by omega),
      (isTimestamp_iff v).mpr h]
    unfold timestamp modifyPost
    cases r.post <;> rfl
  | message h comment =>
    rw [eq_false_of_ne (isTitle_iff hv) (by omega), (isMessage_iff v).mpr h,
      eq_false_of_ne (isTimestamp_iff v) (by omega)]
    unfold message
    cases hpost : r.post with
    | none => simp [hpost]
    | some post => rfl
  | block h =>
    rw [hother (by omega) (by omega) (by omega)]
    simp only [block, Option.bind_some]
    cases r.post <;> rfl
  | topic h text =>
    rw [hother (by omega) (by omega) (by omega)]
    simp only [topic, modifyPost, Option.bind_map, Function.comp_def]
  | header h =>
    rw [hother (by omega) (by omega) (by omega)]
    simp only [header, Option.bind_map, Function.comp_def]
  | image h =>
    rw [hother (by omega) (by omega) (by omega)]
    unfold image
    split <;> rfl
  | counter h =>
    rw [hother (by omega) (by omega) (by omega)]
    unfold counter
    split <;> rfl
  | omitted h => rw [hother (by omega) (by omega) (by omega)]
  | canvas h =>
    rw [hother (by omega) (by omega) (by omega)]
    rfl

end

/-! ### Along a page -/

section
variable (source : Source) (r : Reading)

/-- Whether the tag at place `n` is a mark of some kind, and a post is in progress to take it. -/
def readAt (mark : Visit → Bool) (n : Nat) : Bool :=
  markAt source r mark n && (stateAt source r n).post.isSome

/-- Whether the title at place `n` begins a post, in place of one in progress. -/
def titleAt (n : Nat) : Bool := markAt source r isTitle n && !r.collector.groupsThreads

/-- The images before place `n` that were read since a post was completed. -/
def images (n : Nat) : List Nat :=
  (sinceLatest (completesAt source r) n).filter (readAt source r isImage)

/-- The dates before place `n` that were read since a post was completed or begun by a title. -/
def dates (n : Nat) : List Nat :=
  (sinceLatest (fun m => titleAt source r m || completesAt source r m) n).filter
    (readAt source r isTimestamp)

/-- The last canvas before place `n` that is behind the image at place `i` and no other one. -/
def canvasOf (n i : Nat) : Option Nat :=
  latest (fun k => markAt source r isCanvas k && latest (readAt source r isImage) k == some i) n

/-- The image at place `i`, as a post has it that ends at place `n`. -/
def attachmentFrom (n i : Nat) : Attachment :=
  let image := ((visits source r)[i]?.map (imageOf r.locator)).getD {}
  match (canvasOf source r n i).bind fun k => (visits source r)[k]? with
  | some canvas => sized canvas image
  | none => image

variable {source r}

theorem readAt_eq {n : Nat} {v : Visit} (hv : (visits source r)[n]? = some v)
    (mark : Visit → Bool) :
    readAt source r mark n = (mark v && (stateAt source r n).post.isSome) :=
  congrArg (· && _) (Sheet.markAt_eq hv mark)

theorem canvasOf_of_le {n i : Nat} (h : n ≤ i) : canvasOf source r n i = none := by
  cases hcanvas : canvasOf source r n i with
  | none => rfl
  | some k =>
    obtain ⟨hk, hcanvas, -⟩ := latest_eq_some_iff.mp hcanvas
    have hlatest := (Bool.and_eq_true_iff.mp hcanvas).2
    have := (latest_eq_some_iff.mp (beq_iff_eq.mp hlatest)).1
    omega

theorem canvasOf_succ {n i : Nat} {v : Visit} (hv : (visits source r)[n]? = some v) :
    canvasOf source r (n + 1) i =
      if isCanvas v && latest (readAt source r isImage) n == some i then some n
      else canvasOf source r n i := by
  unfold canvasOf
  rw [latest]
  exact congrArg (fun mark : Bool => if mark && _ then _ else _) (Sheet.markAt_eq hv isCanvas)

theorem locator_stateAt (n : Nat) (hn : n ≤ (visits source r).length) :
    (stateAt source r n).locator = r.locator :=
  Sheet.stateAt_induction (P := fun _ s => s.locator = r.locator) rfl
    (fun _ _ hv ih => (locator_apply (Sheet.visits_made hv)).trans ih) n hn

theorem groupsThreads_stateAt (n : Nat) (hn : n ≤ (visits source r).length) :
    (stateAt source r n).collector.groupsThreads = r.collector.groupsThreads := by
  have hcollector : (stateAt source r n).collector = r.collector.run (chronicle.history source r n) :=
    chronicle.collector_stateAt n hn
  rw [hcollector, Collector.groupsThreads_run]

theorem images_succ {n : Nat} {v : Visit} (hv : (visits source r)[n]? = some v) :
    images source r (n + 1) =
      if isMessage v && (stateAt source r n).post.isSome then []
      else if isImage v && (stateAt source r n).post.isSome then images source r n ++ [n]
      else images source r n := by
  unfold images
  rw [filter_sinceLatest_succ, completesAt_eq hv, readAt_eq hv]

theorem dates_succ {n : Nat} {v : Visit} (hv : (visits source r)[n]? = some v) :
    dates source r (n + 1) =
      if isTitle v && !r.collector.groupsThreads ||
        isMessage v && (stateAt source r n).post.isSome then []
      else if isTimestamp v && (stateAt source r n).post.isSome then dates source r n ++ [n]
      else dates source r n := by
  have htitle : titleAt source r n = (isTitle v && !r.collector.groupsThreads) :=
    congrArg (· && _) (Sheet.markAt_eq hv isTitle)
  unfold dates
  rw [filter_sinceLatest_succ, htitle, completesAt_eq hv, readAt_eq hv]

theorem attachmentFrom_succ {n i : Nat} {v : Visit} (hv : (visits source r)[n]? = some v) :
    attachmentFrom source r (n + 1) i =
      if isCanvas v && latest (readAt source r isImage) n == some i then
        sized v (attachmentFrom source r n i)
      else attachmentFrom source r n i := by
  unfold attachmentFrom
  rw [canvasOf_succ hv]
  cases isCanvas v && latest (readAt source r isImage) n == some i
  · rfl
  · rw [if_pos rfl, if_pos rfl, Option.bind_some, hv]
    cases (canvasOf source r n i).bind fun k => (visits source r)[k]? <;> rfl

/-- An image is as it was read, as long as nothing is behind it. -/
theorem attachmentFrom_self {n : Nat} {v : Visit} (hv : (visits source r)[n]? = some v) :
    attachmentFrom source r n n = imageOf r.locator v := by
  unfold attachmentFrom
  rw [canvasOf_of_le (Nat.le_refl n), hv]
  rfl

theorem modify_last (xs : List α) (x : α) (f : α → α) :
    (xs ++ [x]).modify ((xs ++ [x]).length - 1) f = xs ++ [f x] := by
  induction xs with
  | nil => rfl
  | cons y ys ih =>
    simp only [List.length_append, List.length_singleton, Nat.add_sub_cancel] at ih
    simp [ih]

/-- A canvas tells the size of the last image, and of no other. -/
theorem map_attachmentFrom_canvas {n : Nat} {v : Visit} (hv : (visits source r)[n]? = some v)
    (hcanvas : isCanvas v = true) :
    (images source r n).map (attachmentFrom source r (n + 1)) =
      ((images source r n).map (attachmentFrom source r n)).modify
        (((images source r n).map (attachmentFrom source r n)).length - 1) (sized v) := by
  obtain hnone | ⟨earlier, k, himages, hk, hlatest⟩ :=
    filter_sinceLatest_cases (completesAt source r) (readAt source r isImage) n
  · have hnone : images source r n = [] := hnone
    rw [hnone]
    rfl
  · have himages : images source r n = earlier ++ [k] := himages
    have hearlier : earlier.map (attachmentFrom source r (n + 1)) =
        earlier.map (attachmentFrom source r n) := by
      refine List.map_congr_left fun i hi => ?_
      have hne : k ≠ i := by rintro rfl; exact hk hi
      rw [attachmentFrom_succ hv, hlatest, if_neg (by simp [hne])]
    have hlast : attachmentFrom source r (n + 1) k = sized v (attachmentFrom source r n k) := by
      rw [attachmentFrom_succ hv, hlatest, hcanvas, if_pos (by simp)]
    rw [himages, List.map_append, List.map_append, List.map_singleton, List.map_singleton,
      modify_last, hearlier, hlast]

/-- The attachments kept for the post in progress are the images read since one was completed. -/
theorem committed_stateAt (hslot : r.slot.committed = []) (n : Nat)
    (hn : n ≤ (visits source r).length) :
    (stateAt source r n).slot.committed =
      (images source r n).map (attachmentFrom source r n) := by
  refine Sheet.stateAt_induction
    (P := fun n s => s.slot.committed = (images source r n).map (attachmentFrom source r n))
    hslot (fun n v hv ih => ?_) n hn
  have hlocator : (stateAt source r n).locator = r.locator :=
    locator_stateAt n (Nat.le_of_lt (List.getElem?_eq_some_iff.mp hv).1)
  have hsame (hcanvas : isCanvas v = false) :
      attachmentFrom source r (n + 1) = attachmentFrom source r n := by
    funext i
    rw [attachmentFrom_succ hv, hcanvas, Bool.false_and, if_neg Bool.false_ne_true]
  rw [committed_apply (Sheet.visits_made hv), images_succ hv, ih]
  cases himage : isImage v && (stateAt source r n).post.isSome
  · rw [if_neg Bool.false_ne_true, if_neg Bool.false_ne_true]
    cases hcanvas : isCanvas v
    · rw [if_neg Bool.false_ne_true, hsame hcanvas]
      split <;> rfl
    · have hmessage : isMessage v = false := by
        have := (isCanvas_iff v).mp hcanvas
        exact eq_false_of_ne (isMessage_iff v) (by omega)
      rw [if_pos rfl, hmessage, Bool.false_and, if_neg Bool.false_ne_true]
      exact (map_attachmentFrom_canvas hv hcanvas).symm
  · have hrule := (isImage_iff v).mp (Bool.and_eq_true_iff.mp himage).1
    rw [if_pos rfl, if_pos rfl, eq_false_of_ne (isMessage_iff v) (by omega), Bool.false_and,
      if_neg Bool.false_ne_true, hsame (eq_false_of_ne (isCanvas_iff v) (by omega)),
      List.map_append, List.map_singleton, attachmentFrom_self hv, hlocator]

/-- The moment of the post in progress is told by the last date read for it. -/
theorem timestamp_stateAt (hpost : r.post = none) (n : Nat) (hn : n ≤ (visits source r).length) :
    (stateAt source r n).post.bind (·.timestamp) =
      (dates source r n).getLast?.bind (toldAt source r moment?) := by
  refine Sheet.stateAt_induction
    (P := fun n s =>
      s.post.bind (·.timestamp) = (dates source r n).getLast?.bind (toldAt source r moment?))
    (by rw [hpost]; rfl) (fun n v hv ih => ?_) n hn
  have hgroups : (stateAt source r n).collector.groupsThreads = r.collector.groupsThreads :=
    groupsThreads_stateAt n (Nat.le_of_lt (List.getElem?_eq_some_iff.mp hv).1)
  rw [timestamp_apply (Sheet.visits_made hv), dates_succ hv, hgroups]
  split
  · rfl
  · split
    · rw [List.getLast?_concat, Option.bind_some]
      exact (Sheet.toldAt_eq hv moment?).symm
    · exact ih

end

/-- Images and dates are among the tags since a post was completed. -/
theorem since_of_mem {source : Source} {r : Reading} {n k : Nat}
    (hk : k ∈ images source r n ++ dates source r n) :
    k ∈ sinceLatest (completesAt source r) n ∧
      (readAt source r isImage k || readAt source r isTimestamp k) = true := by
  rcases List.mem_append.mp hk with himage | hdate
  · obtain ⟨hsince, himage⟩ := List.mem_filter.mp himage
    exact ⟨hsince, by rw [himage, Bool.true_or]⟩
  · obtain ⟨hsince, hdate⟩ := List.mem_filter.mp hdate
    obtain ⟨hlt, hnone⟩ := mem_sinceLatest.mp hsince
    refine ⟨mem_sinceLatest.mpr ⟨hlt, fun j hkj hj => ?_⟩, by rw [hdate, Bool.or_true]⟩
    exact (Bool.or_eq_false_iff.mp (hnone j hkj hj)).2

/-- **What posts have, and from which tags.** The posts of a page are those that its messages
complete. The attachments of a post are the images that were read for any post since another was
completed, each as large as the last canvas behind it tells, and its moment is told by the last date
read since then, or since the title of a page that is read for its posts. So a post has only what is
behind its block, if no image and no date was read between the last completed post and the block. -/
theorem data_of_posts (locator : Locator) (listing : Listing) (source : Source) :
    let r := start locator listing
    (readPage locator listing source).map Collector.allPosts =
        source.markup.map (fun _ => completedPosts source r (visits source r).length) ∧
    ∀ n post, completedAt source r n = some post →
      post.attachments = (images source r n).map (attachmentFrom source r n) ∧
      post.timestamp = (dates source r n).getLast?.bind (toldAt source r moment?) ∧
      ∀ m, markAt source r isBlock m = true →
        (∀ k ∈ sinceLatest (completesAt source r) n, k < m →
          readAt source r isImage k = false ∧ readAt source r isTimestamp k = false) →
        ∀ k ∈ images source r n ++ dates source r n, m < k := by
  intro r
  refine ⟨chronicle.allPosts_read (readPage_eq locator listing source), fun n post hpost => ?_⟩
  obtain ⟨v, hv, hcompleted⟩ := chronicle.exists_visit_of_completedAt hpost
  have hn : n ≤ (visits source r).length := Nat.le_of_lt (List.getElem?_eq_some_iff.mp hv).1
  obtain ⟨text, p, -, (hp : (stateAt source r n).post = some p), rfl⟩ :=
    messageRule.completed?_eq_some hcompleted
  refine ⟨committed_stateAt rfl n hn, ?_, fun m hblock hnone k hk => ?_⟩
  · rw [← timestamp_stateAt rfl n hn, hp, Option.bind_some]
  · obtain ⟨b, hb, hrule⟩ : ∃ b, (visits source r)[m]? = some b ∧ b.rule = 1 := by
      obtain ⟨b, hb, hblock⟩ := (Option.any_eq_true _ _).mp hblock
      exact ⟨b, hb, (isBlock_iff b).mp hblock⟩
    have himage : readAt source r isImage m = false := by
      rw [readAt_eq hb, eq_false_of_ne (isImage_iff b) (by omega), Bool.false_and]
    have hdate : readAt source r isTimestamp m = false := by
      rw [readAt_eq hb, eq_false_of_ne (isTimestamp_iff b) (by omega), Bool.false_and]
    obtain ⟨hsince, hread⟩ := since_of_mem hk
    refine Nat.lt_of_not_le fun hle => ?_
    rcases Nat.lt_or_eq_of_le hle with hlt | rfl
    · obtain ⟨hnoImage, hnoDate⟩ := hnone k hsince hlt
      rw [hnoImage, hnoDate] at hread
      cases hread
    · rw [himage, hdate] at hread
      cases hread

/-- A post behind the title of its page, with the image and the date of its own block. -/
theorem data_of_first_post :
    let locator : Locator :=
      ⟨⟨"https", some ⟨"", "", "board.example", none⟩, .segments [""], none, none⟩, .inr rfl⟩
    let page : Source := .text
      ("<div class=\"content-title\">t</div><div data-id=\"1\"><div data-ts=\"5\"></div>" ++
        "<img class=\"media image\" src=\"/a.png\"><div class=\"post-message\">a</div></div>")
    let r := start locator .posts
    ∃ post, completedAt page r 4 = some post ∧ post.timestamp = some 5 ∧
      post.attachments.length = 1 ∧ images page r 4 = [3] ∧
      ∀ k ∈ images page r 4 ++ dates page r 4, 1 < k := by
  intro locator page r
  have hpage : (completedAt page r 4).isSome = true ∧ images page r 4 = [3] ∧
      (dates page r 4).getLast?.bind (toldAt page r moment?) = some 5 ∧
      markAt page r isBlock 1 = true ∧
      ∀ k ∈ sinceLatest (completesAt page r) 4, k < 1 →
        readAt page r isImage k = false ∧ readAt page r isTimestamp k = false := by
    decide +kernel
  obtain ⟨hcompleted, himages, hmoment, hblock, hnone⟩ := hpage
  obtain ⟨post, hpost⟩ := Option.isSome_iff_exists.mp hcompleted
  obtain ⟨hattachments, htimestamp, hbehind⟩ := (data_of_posts locator .posts page).2 4 post hpost
  refine ⟨post, hpost, htimestamp.trans hmoment, ?_, himages, hbehind 1 hblock hnone⟩
  rw [hattachments, List.length_map]
  exact congrArg List.length himages

/-- A block without a message leaves its image and its date to the post of the next block. -/
theorem data_of_block_before :
    let locator : Locator :=
      ⟨⟨"https", some ⟨"", "", "board.example", none⟩, .segments [""], none, none⟩, .inr rfl⟩
    let page : Source := .text
      ("<div data-id=\"1\"><div data-ts=\"5\"></div>" ++
        "<img class=\"media image\" src=\"/a.png\"></div>" ++
        "<div data-id=\"2\"><div class=\"post-message\">b</div></div>")
    let r := start locator .posts
    latest (markAt page r isBlock) 4 = some 3 ∧ images page r 4 = [2] ∧ dates page r 4 = [1] ∧
      (completedAt page r 4).map
          (fun post => (post.number, post.timestamp, post.attachments.length)) =
        some (some "2", some 5, 1) := by
  decide +kernel

end Imageboard.Erlach
