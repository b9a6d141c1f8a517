import Imageboard.Proofs.Site.Wakaba.Answers

/-! The numbers of posts, and of the threads they are in.

An opening post has its number from a checkbox, which begins its thread as well, and a reply has its
number from its cell. What each tag does to the post in progress is gone through once
(`proceeds_of_made`), and from it follows which thread a reply names (`threads_of_page`) and which
checkbox an opening post has its number from (`number_of_opening`). -/
namespace Imageboard.Wakaba
open Reading

/-- The number that a checkbox gives a post. -/
def checkboxNumber? (v : Visit) : Option String :=
  if isCheckbox v && v.attributes.get? "type" == some "checkbox" then
    Text.nonblank? (v.attributes.getD "value")
  else none

/-- The number in the `id` of a tag. -/
def idNumber? (v : Visit) : Option String := replyNumber? (v.attributes.getD "id")

/-! ### The post in progress -/

/-- All that a tag can make of the post in progress. -/
inductive Proceeds (v : Visit) (r : Reading) : Option Post → Prop where
  | opens (hbegins : beginsThread r v = true) :
    Proceeds v r (some { r.postOrNew with number := checkboxNumber? v })
  | replies (h : v.rule = 1) :
    Proceeds v r (some { number := idNumber? v, parentNumber := r.parent })
  | beginsFile (h : v.rule = 2) : Proceeds v r (some r.postOrNew)
  | finishes (h : v.rule = 15) : Proceeds v r none
  | goesOn (hbegins : beginsThread r v = false) (hreply : v.rule ≠ 1) (hmessage : v.rule ≠ 15)
    (f : Post → Post) (hf : KeepsNumbers f) : Proceeds v r (r.post.map f)

theorem checkbox_eq {v : Visit} {r : Reading} (hv : v.MadeIn (Sheet.table sheet) r)
    (h : v.rule = 0) :
    checkbox v.attributes r =
      if beginsThread r v then
        { r with
          post := some { r.postOrNew with number := checkboxNumber? v }
          parent := checkboxNumber? v
          collector := r.collector.begin }
      else r := by
  unfold checkbox beginsThread checkboxNumber?
  rw [(isCheckbox_iff hv).mpr h]
  cases htype : v.attributes.get? "type" == some "checkbox"
  · simp [bne, htype]
  · cases hnumber : r.post.any (·.number.isSome) <;> simp [bne, htype]

theorem beginsThread_eq_false {v : Visit} {r : Reading} (hv : v.MadeIn (Sheet.table sheet) r)
    (h : v.rule ≠ 0) : beginsThread r v = false := by
  unfold beginsThread
  rw [eq_false_of_ne (isCheckbox_iff hv) h]
  rfl

theorem proceeds_of_made {v : Visit} {r : Reading} (hv : v.MadeIn (Sheet.table sheet) r) :
    Proceeds v r (v.apply (Sheet.table sheet) r).post := by
  have hother {r' : Reading} (hpost : r'.post = r.post) (h : v.rule ∉ [0, 1, 15]) :
      Proceeds v r r'.post := by
    simp only [List.mem_cons, List.not_mem_nil, or_false, not_or] at h
    have hgoesOn := Proceeds.goesOn (beginsThread_eq_false hv h.1) h.2.1 h.2.2 id .id
    rwa [Option.map_id, id, ← hpost] at hgoesOn
  have hlinked {r' : Reading} (h : v.rule = 3) (hl : Linked r r') : Proceeds v r r'.post := by
    obtain ⟨f, hpost, hf⟩ := hl.post
    rw [hpost]
    exact .goesOn (beginsThread_eq_false hv (by omega)) (by omega) (by omega) f hf
  have hanswer := answer_of_made hv
  generalize v.apply (Sheet.table sheet) r = r' at hanswer ⊢
  cases hanswer with
  | checkbox h =>
    rw [checkbox_eq hv h]
    cases hbegins : beginsThread r v
    · have hgoesOn := Proceeds.goesOn hbegins (by omega) (by omega) id .id
      rwa [Option.map_id] at hgoesOn
    · exact .opens hbegins
  | reply h => exact .replies h
  | fileSize h => exact .beginsFile h
  | message h comment =>
    unfold message
    cases hpost : r.post with
    | none => rw [hpost]; exact .finishes h
    | some post => exact .finishes h
  | link h hno => exact hlinked h (link_linked hno)
  | linkText h hyes text => exact hlinked h (linkText_linked hyes text)
  | head h f hf =>
    have hne {i : Nat} (hi : i ∉ headRules) : v.rule ≠ i := ne_of_mem_headRules h hi
    exact .goesOn (beginsThread_eq_false hv (hne (by decide))) (hne (by decide)) (hne (by decide))
      f hf
  | omittedPosts h text =>
    unfold omittedPosts
    split
    · exact hother rfl (h ▸ by decide)
    · exact hother rfl (h ▸ by decide)
  | logo h text =>
    unfold logo
    exact hother rfl (h ▸ by decide)
  | thumbnail h | video h | noThumbnail h | reflinkMark h => exact hother rfl (h ▸ by decide)

/-- The thread is known by the checkbox that began it. -/
theorem parent_apply {v : Visit} {r : Reading} (hv : v.MadeIn (Sheet.table sheet) r) :
    (v.apply (Sheet.table sheet) r).parent =
      if beginsThread r v then checkboxNumber? v else r.parent := by
  have hother (h : v.rule ≠ 0) :
      (if beginsThread r v then checkboxNumber? v else r.parent) = r.parent := by
    rw [beginsThread_eq_false hv h, if_neg Bool.false_ne_true]
  have hanswer := answer_of_made hv
  generalize v.apply (Sheet.table sheet) r = r' at hanswer ⊢
  cases hanswer with
  | checkbox h =>
    rw [checkbox_eq hv h]
    cases beginsThread r v <;> rfl
  | message h comment =>
    rw [hother (by omega)]
    unfold message
    split <;> rfl
  | link h hno => rw [hother (by omega), (link_linked hno).rest]
  | linkText h hyes text => rw [hother (by omega), (linkText_linked hyes text).rest]
  | head h =>
    rw [hother (ne_of_mem_headRules h (by decide))]
    rfl
  | omittedPosts h text =>
    rw [hother (by omega)]
    unfold omittedPosts
    split <;> rfl
  | logo h text =>
    rw [hother (by omega)]
    unfold logo
    rfl
  | reply h | fileSize h | thumbnail h | video h | noThumbnail h | reflinkMark h =>
    rw [hother (by omega)]
    rfl

/-- Where a checkbox begins no thread, it has no number for the post in progress, or that has one. -/
theorem or_checkboxNumber? {v : Visit} {r : Reading} (h : beginsThread r v = false) :
    (r.post.bind (·.number)).or (checkboxNumber? v) = r.post.bind (·.number) := by
  unfold beginsThread at h
  unfold checkboxNumber?
  cases hbox : isCheckbox v && v.attributes.get? "type" == some "checkbox"
  · rw [if_neg Bool.false_ne_true, Option.or_none]
  · rw [hbox, Bool.true_and] at h
    cases hpost : r.post with
    | none => rw [hpost] at h; cases h
    | some post =>
      rw [hpost, Option.any_some, Bool.not_eq_false'] at h
      exact Option.or_of_isSome h

/-- The number of the post in progress is the first it is given, unless it is a reply. -/
theorem number_apply {v : Visit} {r : Reading} (hv : v.MadeIn (Sheet.table sheet) r) :
    (v.apply (Sheet.table sheet) r).post.bind (·.number) =
      if isReply v then idNumber? v
      else if isMessage v then none
      else (r.post.bind (·.number)).or (checkboxNumber? v) := by
  have hother (hreply : v.rule ≠ 1) (hmessage : v.rule ≠ 15) :
      (if isReply v then idNumber? v
        else if isMessage v then none
        else (r.post.bind (·.number)).or (checkboxNumber? v)) =
          (r.post.bind (·.number)).or (checkboxNumber? v) := by
    rw [eq_false_of_ne (isReply_iff hv) hreply, eq_false_of_ne (isMessage_iff hv) hmessage]
    rfl
  have hproceeds := proceeds_of_made hv
  generalize (v.apply (Sheet.table sheet) r).post = post' at hproceeds ⊢
  cases hproceeds with
  | opens hbegins =>
    have hbox := hbegins
    simp only [beginsThread, Bool.and_eq_true, Bool.not_eq_true', isCheckbox_iff hv] at hbox
    rw [hother (by omega) (by omega)]
    cases hpost : r.post with
    | none => rfl
    | some post =>
      have hnumber : post.number = none := by simpa [hpost] using hbox.2
      rw [Option.bind_some, Option.bind_some, hnumber, Option.none_or]
  | replies h => rw [(isReply_iff hv).mpr h]; rfl
  | beginsFile h =>
    rw [hother (by omega) (by omega),
      or_checkboxNumber? (beginsThread_eq_false hv (by omega)), postOrNew]
    cases r.post <;> rfl
  | finishes h =>
    rw [eq_false_of_ne (isReply_iff hv) (by omega), (isMessage_iff hv).mpr h]
    rfl
  | goesOn hbegins hreply hmessage f hf =>
    rw [hother hreply hmessage, or_checkboxNumber? hbegins, Option.bind_map]
    exact Option.bind_congr fun p _ => hf.number p

/-- A message that completes nothing comes where no post is in progress, and changes nothing. -/
theorem number_apply_unfinished {v : Visit} {r : Reading} (hv : v.MadeIn (Sheet.table sheet) r)
    (hreply : isReply v = false) (hopen : (isMessage v && r.post.isSome) = false) :
    (v.apply (Sheet.table sheet) r).post.bind (·.number) =
      (r.post.bind (·.number)).or (checkboxNumber? v) := by
  rw [number_apply hv, hreply, if_neg Bool.false_ne_true]
  split
  · rename_i hmessage
    have hnone : r.post = none := by
      rwa [hmessage, Bool.true_and, Option.isSome_eq_false_iff, Option.isNone_iff_eq_none] at hopen
    have hrule := (isMessage_iff hv).mp hmessage
    rw [or_checkboxNumber? (beginsThread_eq_false hv (by omega)), hnone, Option.bind_none]
  · rfl

/-- A post that has a number goes on with its numbers until it is completed or dropped. -/
theorem numbered_goesOn {v : Visit} {r : Reading} (hv : v.MadeIn (Sheet.table sheet) r)
    (hreply : isReply v = false) (hmessage : isMessage v = false) {post : Post}
    (hpost : r.post = some post) (hnumber : post.number.isSome = true) :
    ∃ f, (v.apply (Sheet.table sheet) r).post = some (f post) ∧ KeepsNumbers f := by
  have hproceeds := proceeds_of_made hv
  generalize (v.apply (Sheet.table sheet) r).post = post' at hproceeds ⊢
  cases hproceeds with
  | opens hbegins =>
    simp [beginsThread, hpost, hnumber] at hbegins
  | replies h =>
    rw [(isReply_iff hv).mpr h] at hreply
    cases hreply
  | beginsFile => exact ⟨id, by rw [postOrNew, hpost]; rfl, .id⟩
  | finishes h =>
    rw [(isMessage_iff hv).mpr h] at hmessage
    cases hmessage
  | goesOn _ _ _ f hf => exact ⟨f, by rw [hpost]; rfl, hf⟩

/-! ### Along a page -/

section
variable {source : Source} {r : Reading}

/-- The thread of a state is that of the last checkbox that began one. -/
theorem parent_stateAt (hparent : r.parent = none) (n : Nat) (hn : n ≤ (visits source r).length) :
    (stateAt source r n).parent =
      (latest (beginsAt source r) n).bind (toldAt source r checkboxNumber?) := by
  refine Sheet.stateAt_induction
    (P := fun n s => s.parent =
      (latest (beginsAt source r) n).bind (toldAt source r checkboxNumber?))
    hparent (fun n v hv ih => ?_) n hn
  rw [parent_apply (visits_made hv), ih, latest, beginsAt_eq hv]
  split
  · exact (toldAt_eq hv checkboxNumber?).symm
  · rfl

/-- As long as no reply begins, the post in progress has the number of the first checkbox behind the
last post that was completed. -/
theorem number_stateAt (hpost : r.post = none) (n : Nat) (hn : n ≤ (visits source r).length)
    (hreplies : ∀ m ∈ sinceLatest (completesAt source r) n, markAt source r isReply m = false) :
    (stateAt source r n).post.bind (·.number) =
      (sinceLatest (completesAt source r) n).findSome? (toldAt source r checkboxNumber?) := by
  refine Sheet.stateAt_induction
    (P := fun n s =>
      (∀ m ∈ sinceLatest (completesAt source r) n, markAt source r isReply m = false) →
        s.post.bind (·.number) =
          (sinceLatest (completesAt source r) n).findSome? (toldAt source r checkboxNumber?))
    (fun _ => by rw [hpost]; rfl) (fun n v hv ih hreplies => ?_) n hn hreplies
  have hmade := visits_made hv
  rw [sinceLatest, completesAt_eq hv] at hreplies ⊢
  cases hcompletes : isMessage v && (stateAt source r n).post.isSome
  · rw [hcompletes, if_neg Bool.false_ne_true] at hreplies
    have hreply : isReply v = false := by
      rw [← markAt_eq hv isReply]
      exact hreplies n (List.mem_append_right _ List.mem_cons_self)
    have ih := ih fun m hm => hreplies m (List.mem_append_left _ hm)
    rw [if_neg Bool.false_ne_true, List.findSome?_append, List.findSome?_singleton, toldAt_eq hv,
      ← ih, number_apply_unfinished hmade hreply hcompletes]
  · obtain ⟨hmessage, -⟩ := Bool.and_eq_true_iff.mp hcompletes
    have hrule := (isMessage_iff hmade).mp hmessage
    rw [number_apply hmade, eq_false_of_ne (isReply_iff hmade) (by omega), hmessage]
    rfl

/-- A reply that has a number keeps it, and the thread it began in, until it is completed. -/
theorem reply_stateAt {m : Nat} {number : String} (n : Nat) (hn : n ≤ (visits source r).length)
    (hopen : m ∈ sinceLatest (completesAt source r) n)
    (hreply : latest (markAt source r isReply) n = some m)
    (hnumber : toldAt source r idNumber? m = some number) :
    ∃ post, (stateAt source r n).post = some post ∧ post.number = some number ∧
      ∀ parent, (stateAt source r n).parent = some parent → post.parentNumber = some parent := by
  refine Sheet.stateAt_induction
    (P := fun n s => m ∈ sinceLatest (completesAt source r) n →
      latest (markAt source r isReply) n = some m →
        ∃ post, s.post = some post ∧ post.number = some number ∧
          ∀ parent, s.parent = some parent → post.parentNumber = some parent)
    (fun h => nomatch h) (fun n v hv ih hopen hreply => ?_) n hn hopen hreply
  have hmade := visits_made hv
  rw [latest, markAt_eq hv] at hreply
  cases hr : isReply v
  · rw [hr, if_neg Bool.false_ne_true] at hreply
    have hlt := (latest_eq_some_iff.mp hreply).1
    obtain ⟨hopen, hcompletes⟩ := mem_sinceLatest_of_succ hopen hlt
    obtain ⟨post, hpost, hpnumber, hparent⟩ := ih hopen hreply
    have hmessage : isMessage v = false := by
      rwa [completesAt_eq hv, hpost, Option.isSome_some, Bool.and_true] at hcompletes
    obtain ⟨f, hf, hkeeps⟩ :=
      numbered_goesOn hmade hr hmessage hpost (by rw [hpnumber]; rfl)
    refine ⟨f post, hf, (hkeeps.number post).trans hpnumber, fun parent h => ?_⟩
    have hbegins : beginsThread (stateAt source r n) v = false := by
      simp [beginsThread, hpost, hpnumber]
    rw [parent_apply hmade, hbegins, if_neg Bool.false_ne_true] at h
    have hp := hparent parent h
    exact (hkeeps.parentNumber post (by rw [hp]; rfl)).trans hp
  · rw [hr, if_pos rfl] at hreply
    obtain rfl := Option.some.inj hreply
    rw [toldAt_eq hv] at hnumber
    have hrule := (isReply_iff hmade).mp hr
    have hat : (Sheet.table sheet).rules[v.rule]? =
        some (.atTag (.startsWith "td" "id" "reply") reply) := by
      rw [hrule]
      rfl
    rw [Visit.apply_atTag hat]
    exact ⟨_, rfl, hnumber, fun parent h => h⟩

variable (source r)

/-- The tag at place `n` stands in a reply that the cell at place `m` began, and in the thread that
the checkbox at place `c` began: no post was completed behind the cell. -/
structure RepliesAt (c m n : Nat) : Prop where
  cell : latest (markAt source r isReply) n = some m
  unfinished : m ∈ sinceLatest (completesAt source r) n
  thread : latest (beginsAt source r) n = some c

end

/-- **The threads of a page.** The posts that its messages complete are cut where a checkbox begins a
thread, which it does unless a post with a number is in progress, and pieces without posts are none.
A reply whose cell has a number keeps that number, and it names the thread it is in, whatever its
links say. -/
theorem threads_of_page (locator : Locator) (board : String) (namesFiles : Bool) (listing : Listing)
    (source : Source) (configuration : Configuration) :
    let r := start locator board namesFiles listing configuration
    let places := List.range (visits source r).length
    (listing ≠ .posts →
      (readPage locator board namesFiles listing source configuration).1.map
          (·.allThreads.map (·.posts)) =
        source.markup.map fun _ =>
          ((places.splitOnP (beginsAt source r)).map
            (·.filterMap (completedAt source r))).filter (!·.isEmpty)) ∧
    ∀ c m n post, completedAt source r n = some post → RepliesAt source r c m n →
      ∀ number parent, toldAt source r idNumber? m = some number →
        toldAt source r checkboxNumber? c = some parent →
        post.number = some number ∧ post.parentNumber = some parent := by
  intro r places
  refine ⟨fun hlisting => ?threads, ?replies⟩
  case threads =>
    rw [readPage_eq]
    cases listing with
    | posts => exact absurd rfl hlisting
    | threads openingOnly =>
      cases source.markup with
      | error e => rfl
      | ok markup => exact congrArg Except.ok (chronicle.posts_allThreads_history openingOnly _)
  case replies =>
    intro c m n post hpost hreply number parent hnumber hparent
    obtain ⟨v, hv, hcompleted⟩ := chronicle.exists_visit_of_completedAt hpost
    have hn : n ≤ (visits source r).length := Nat.le_of_lt (List.getElem?_eq_some_iff.mp hv).1
    obtain ⟨text, p, -, (hp : (stateAt source r n).post = some p), rfl⟩ :=
      messageRule.completed?_eq_some hcompleted
    obtain ⟨q, hq, hqnumber, hqparent⟩ :=
      reply_stateAt n hn hreply.unfinished hreply.cell hnumber
    obtain rfl := Option.some.inj (hq.symm.trans hp)
    have hthread : (stateAt source r n).parent = some parent := by
      rw [parent_stateAt rfl n hn, hreply.thread]
      exact hparent
    exact ⟨hqnumber, hqparent parent hthread⟩

/-- A reply that names its thread, though it has a link to another one. -/
theorem thread_with_reply :
    let locator : Locator :=
      ⟨⟨"https", some ⟨"", "", "board.example", none⟩, .segments [""], none, none⟩, .inr rfl⟩
    let page : Source := .text
      ("<input type=\"checkbox\" name=\"delete\" value=\"7\"><div class=\"message\">a</div>" ++
        "<td id=\"reply8\"><span class=\"reflink\"><a href=\"/b/res/5.html\"></a></span>" ++
        "<div class=\"message\">b</div>")
    let r := start locator "b" true (.threads false) {}
    let opening : Post := { number := some "7", comment := some "a" }
    let reply : Post := { number := some "8", parentNumber := some "7", comment := some "b" }
    ((readPage locator "b" true (.threads false) page {}).1.map (·.allThreads.map (·.posts))).toOption =
        some [[opening, reply]] ∧
      RepliesAt page r 0 2 5 ∧ reply.number = some "8" ∧ reply.parentNumber = some "7" := by
  intro locator page r opening reply
  obtain ⟨hthreads, hreplies⟩ := threads_of_page locator "b" true (.threads false) page {}
  have hpage :
      latest (markAt page r isReply) 5 = some 2 ∧ 2 ∈ sinceLatest (completesAt page r) 5 ∧
        latest (beginsAt page r) 5 = some 0 ∧ completedAt page r 5 = some reply ∧
        toldAt page r idNumber? 2 = some "8" ∧ toldAt page r checkboxNumber? 0 = some "7" ∧
        (((List.range (visits page r).length).splitOnP (beginsAt page r)).map
          (·.filterMap (completedAt page r))).filter (!·.isEmpty) = [[opening, reply]] := by
    decide +kernel
  obtain ⟨hcell, hunfinished, hthread, hcompleted, hnumber, hparent, hposts⟩ := hpage
  have hreply : RepliesAt page r 0 2 5 := ⟨hcell, hunfinished, hthread⟩
  refine ⟨?_, hreply, hreplies 0 2 5 reply hcompleted hreply "8" "7" hnumber hparent⟩
  rw [hthreads nofun]
  exact congrArg some hposts

/-- **The number of an opening post.** Where no reply began since a post was completed, the next one
that is completed has its number from the first checkbox that had one for it. Checkboxes behind that
one are ignored, because a post with a number is in progress. -/
theorem number_of_opening (locator : Locator) (board : String) (namesFiles : Bool)
    (listing : Listing) (source : Source) (configuration : Configuration) {n : Nat} {post : Post} :
    let r := start locator board namesFiles listing configuration
    completedAt source r n = some post →
    (∀ m ∈ sinceLatest (completesAt source r) n, markAt source r isReply m = false) →
    post.number =
      (sinceLatest (completesAt source r) n).findSome? (toldAt source r checkboxNumber?) := by
  intro r hpost hreplies
  obtain ⟨v, hv, hcompleted⟩ := chronicle.exists_visit_of_completedAt hpost
  have hn : n ≤ (visits source r).length := Nat.le_of_lt (List.getElem?_eq_some_iff.mp hv).1
  obtain ⟨text, p, -, (hp : (stateAt source r n).post = some p), rfl⟩ :=
    messageRule.completed?_eq_some hcompleted
  rw [← number_stateAt rfl n hn hreplies, hp, Option.bind_some]

/-- A post of two checkboxes, with the number of the first. -/
theorem number_of_first_opening :
    let locator : Locator :=
      ⟨⟨"https", some ⟨"", "", "board.example", none⟩, .segments [""], none, none⟩, .inr rfl⟩
    let page : Source := .text
      ("<input type=\"checkbox\" name=\"delete\" value=\"1\">" ++
        "<input type=\"checkbox\" name=\"delete\" value=\"2\"><div class=\"message\">x</div>")
    let r := start locator "b" true .posts {}
    let post : Post := { number := some "1", comment := some "x" }
    completedAt page r 2 = some post ∧ toldAt page r checkboxNumber? 1 = some "2" ∧
      post.number =
        (sinceLatest (completesAt page r) 2).findSome? (toldAt page r checkboxNumber?) := by
  intro locator page r post
  have hpage : completedAt page r 2 = some post ∧ toldAt page r checkboxNumber? 1 = some "2" ∧
      ∀ m ∈ sinceLatest (completesAt page r) 2, markAt page r isReply m = false := by
    decide +kernel
  obtain ⟨hcompleted, hlater, hreplies⟩ := hpage
  exact ⟨hcompleted, hlater,
    number_of_opening locator "b" true .posts page {} hcompleted hreplies⟩

/-- A post of two checkboxes has its number from the first, not from the last before its message. -/
theorem later_checkbox_ignored :
    let locator : Locator :=
      ⟨⟨"https", some ⟨"", "", "board.example", none⟩, .segments [""], none, none⟩, .inr rfl⟩
    let page : Source := .text
      ("<input type=\"checkbox\" name=\"delete\" value=\"1\">" ++
        "<input type=\"checkbox\" name=\"delete\" value=\"2\"><div class=\"message\">x</div>")
    let r := start locator "b" true .posts {}
    completedAt page r 2 = some { number := some "1", comment := some "x" } ∧
      sinceLatest (completesAt page r) 2 = [0, 1] ∧
      markAt page r isReply 0 = false ∧ markAt page r isReply 1 = false ∧
      latest (fun m => (toldAt page r checkboxNumber? m).isSome) 2 = some 1 ∧
      toldAt page r checkboxNumber? 1 = some "2" := by
  decide +kernel

end Imageboard.Wakaba
