import Imageboard.Proofs.Post.Dates
import Imageboard.Proofs.Site.Wakaba.Answers

/-! The date of the post in progress, and what depends on it.

No mark of a page looks at the date of a post: up to the message two readings that differ in it stay
as they were (`rules_redated`), a reply drops the post with its date, and a message collects it with
the date that it has. `read_redated`: of all that is read behind a date, only the date of that one
post depends on it. -/
namespace Imageboard.Wakaba
open Collector (Step fresh pushed RedatedAt)
open Reading

/-! ### The date of the post in progress -/

/-- The same reading, but for the date of the post in progress. -/
def Redated (r r' : Reading) : Prop := ∃ moment, r' = r.modifyPost (Post.dated moment)

theorem modifyPost_of_none {r : Reading} (h : r.post = none) (f : Post → Post) :
    r.modifyPost f = r := by
  unfold modifyPost
  rw [h, Option.map_none, ← h]

theorem Redated.refl (r : Reading) : Redated r r := by
  cases h : r.post with
  | none => exact ⟨none, (modifyPost_of_none h _).symm⟩
  | some post =>
    refine ⟨post.timestamp, ?_⟩
    unfold modifyPost
    rw [h, Option.map_some]
    show r = { r with post := some post }
    rw [← h]

/-- A change that leaves the date of the post in progress, where there is one. -/
def KeepsDate (change : Reading → Reading) : Prop :=
  ∀ moment r, r.post.isSome = true →
    change (r.modifyPost (Post.dated moment)) = (change r).modifyPost (Post.dated moment)

theorem KeepsDate.redated {change : Reading → Reading} (h : KeepsDate change) {r r' : Reading}
    (hr : Redated r r') : Redated (change r) (change r') := by
  obtain ⟨moment, rfl⟩ := hr
  cases hpost : r.post with
  | none =>
    rw [modifyPost_of_none hpost]
    exact Redated.refl (change r)
  | some post => exact ⟨moment, h moment r (hpost ▸ rfl)⟩

theorem modifyPost_keepsDate {f : Post → Post}
    (h : ∀ moment post, f (post.dated moment) = (f post).dated moment) :
    KeepsDate (modifyPost · f) := by
  intro moment r _
  show (r.modifyPost _).modifyPost f = (r.modifyPost f).modifyPost _
  rw [modifyPost_modifyPost, modifyPost_modifyPost]
  exact congrArg (modifyPost r) (funext fun post => h moment post)

theorem checkbox_keepsDate (attributes : Attributes) : KeepsDate (checkbox attributes) := by
  intro moment r hpost
  obtain ⟨post, h⟩ := Option.isSome_iff_exists.mp hpost
  have hany : (r.modifyPost (Post.dated moment)).post.any (·.number.isSome) =
      r.post.any (·.number.isSome) := by
    unfold modifyPost
    rw [h]
    rfl
  unfold checkbox
  rw [hany]
  split
  · rfl
  · simp only [modifyPost, postOrNew, h, Option.map_some, Option.getD_some, Post.dated]

theorem fileSize_keepsDate (attributes : Attributes) : KeepsDate (fileSize attributes) := by
  intro moment r hpost
  obtain ⟨post, h⟩ := Option.isSome_iff_exists.mp hpost
  simp only [fileSize, modifyPost, postOrNew, h, Option.map_some, Option.getD_some]

theorem posterName_keepsDate (markup : String) : KeepsDate (posterName markup) := by
  have hemail (email : Option String) (moment : Option Int64) (post : Post) :
      withEmail email (post.dated moment) = (withEmail email post).dated moment := by
    unfold withEmail
    split
    · rfl
    · split <;> rfl
  have hname (part : String) (moment : Option Int64) (post : Post) :
      (post.dated moment).appendName part = (post.appendName part).dated moment := by
    unfold Post.appendName
    split <;> rfl
  refine modifyPost_keepsDate fun moment post => ?_
  rw [hemail, hname]

theorem country_keepsDate (attributes : Attributes) : KeepsDate (country attributes) := by
  intro moment r hpost
  have hlocator : (r.modifyPost (Post.dated moment)).locator = r.locator := rfl
  simp only [country, hlocator]
  cases attributes.get? "title" with
  | none => rfl
  | some title =>
    cases (attributes.get? "src").bind r.locator.address? with
    | none => rfl
    | some address => exact modifyPost_keepsDate (fun _ _ => rfl) moment r hpost

theorem followReflink_keepsDate (href : String) : KeepsDate (followReflink href) := by
  intro moment r hpost
  unfold followReflink
  split
  · rfl
  · refine modifyPost_keepsDate (fun moment post => ?_) moment r hpost
    show (if post.parentNumber.isNone && post.number != _ then _ else _) = _
    split <;> rfl

theorem link_redated (attributes : Attributes) {r r' : Reading} (h : Redated r r') :
    Alike Redated (link attributes r) (link attributes r') := by
  obtain ⟨moment, rfl⟩ := h
  have hfile (href : String) :
      linkedFile? href (r.modifyPost (Post.dated moment)) = linkedFile? href r := rfl
  have hreflink : (r.modifyPost (Post.dated moment)).reflink = r.reflink := rfl
  simp only [link, hfile, hreflink]
  cases r.reflink with
  | true =>
    rw [if_pos rfl, if_pos rfl]
    refine ⟨rfl, ?_⟩
    dsimp only
    exact (followReflink_keepsDate (attributes.getD "href")).redated ⟨moment, rfl⟩
  | false =>
    rw [if_neg Bool.false_ne_true, if_neg Bool.false_ne_true]
    cases linkedFile? (attributes.getD "href") r with
    | some file => exact ⟨rfl, moment, rfl⟩
    | none =>
      dsimp only
      split
      · exact ⟨rfl, moment, rfl⟩
      · exact ⟨rfl, moment, rfl⟩

theorem pageLink_keepsDate (text : String) : KeepsDate (pageLink text) := by
  intro moment r _
  unfold pageLink
  cases pagesTold? text with
  | none => rfl
  | some pages =>
    show (if r.pagesCount < pages then _ else _) = modifyPost (if r.pagesCount < pages then _ else _) _
    split <;> rfl

theorem linkText_keepsDate (text : String) : KeepsDate (linkText text) := by
  intro moment r hpost
  cases h : r.linkUse with
  | none => simp only [linkText, modifyPost, h]
  | some use =>
    cases use with
    | uploadName => simp only [linkText, modifyPost, h]
    | pageNumber =>
      have hpage := pageLink_keepsDate text moment { r with linkUse := none } hpost
      simp only [linkText, modifyPost, h] at hpage ⊢
      exact hpage

theorem omittedPosts_keepsDate (text : String) : KeepsDate (omittedPosts text) := by
  intro moment r _
  unfold omittedPosts
  cases Counter.read? text with
  | none => rfl
  | some count => rfl

theorem logo_keepsDate (text : String) : KeepsDate (logo text) := by
  intro moment r _
  simp only [logo, modifyPost]

/-- A date from the page takes the place of any that there is. -/
theorem modifyPost_dated (r : Reading) (moment moment' : Option Int64) :
    (r.modifyPost (Post.dated moment)).modifyPost (Post.dated moment') =
      r.modifyPost (Post.dated moment') :=
  modifyPost_modifyPost r _ _

theorem date_redated (attributes : Attributes) {r r' : Reading} (h : Redated r r') :
    Alike Redated (date attributes r) (date attributes r') := by
  obtain ⟨moment, rfl⟩ := h
  have hpost : (r.modifyPost (Post.dated moment)).post.isSome = r.post.isSome := Option.isSome_map ..
  have hdate := modifyPost_dated r moment (toldMoment? attributes)
  refine ⟨?_, ?_⟩
  · simp only [date, hpost]
  · show Redated (r.modifyPost _) ((r.modifyPost (Post.dated moment)).modifyPost _)
    exact hdate ▸ Redated.refl _

theorem printedDate_redated (text : String) {r r' : Reading} (h : Redated r r') :
    Redated (printedDate text r) (printedDate text r') := by
  obtain ⟨moment, rfl⟩ := h
  have hdate := modifyPost_dated r moment (PrintedDate.moment? (Comment.plainText text))
  unfold printedDate
  exact hdate ▸ Redated.refl _

/-- A reply drops the post in progress, with its date. -/
theorem reply_eq_of_redated (attributes : Attributes) {r r' : Reading} (h : Redated r r') :
    reply attributes r' = reply attributes r := by
  obtain ⟨moment, rfl⟩ := h
  rfl

theorem atTag_redated {pattern : TagPattern} {change : Attributes → Reading → Reading}
    (h : ∀ attributes, KeepsDate (change attributes)) : (Rule.atTag pattern change).Keeps Redated :=
  Rule.atTag_keeps fun attributes _ _ hr => (h attributes).redated hr

theorem atContent_redated {pattern : TagPattern} {change : String → Reading → Reading}
    (h : ∀ text, KeepsDate (change text)) : (Rule.atContent pattern change).Keeps Redated :=
  Rule.atContent_keeps fun text _ _ hr => (h text).redated hr

/-- Up to its message, nothing that a page tells of a post depends on the date of the post. -/
theorem rules_redated : ∀ rule ∈ rules.eraseIdx 15, rule.Keeps Redated := by
  simp only [rules, List.eraseIdx_cons_succ, List.eraseIdx_cons_zero, List.forall_mem_cons,
    List.not_mem_nil, false_implies, implies_true, and_true]
  refine ⟨?checkbox, ?reply, ?fileSize, ?link, ?thumbnail, ?video, ?noThumbnail, ?fileTitle,
    ?replyTitle, ?country, ?identifier, ?capcode, ?posterName, ?tripcode, ?date, ?omittedPosts, ?logo,
    ?reflinkMark, ?sticky, ?cyclical⟩
  case checkbox => exact atTag_redated checkbox_keepsDate
  case reply =>
    refine Rule.atTag_keeps fun attributes r r' h => ?_
    rw [reply_eq_of_redated attributes h]
    exact .refl _
  case fileSize => exact atTag_redated fileSize_keepsDate
  case link =>
    exact Rule.asking_keeps (fun attributes _ _ h => link_redated attributes h)
      fun text _ _ h => (linkText_keepsDate text).redated h
  case country => exact atTag_redated country_keepsDate
  case posterName => exact atContent_redated posterName_keepsDate
  case date =>
    exact Rule.asking_keeps (fun attributes _ _ h => date_redated attributes h)
      fun text _ _ h => printedDate_redated text h
  case omittedPosts => exact atContent_redated omittedPosts_keepsDate
  case sticky => exact atTag_redated fun _ => modifyPost_keepsDate fun _ _ => rfl
  case cyclical => exact atTag_redated fun _ => modifyPost_keepsDate fun _ _ => rfl
  case thumbnail => exact atTag_redated fun _ _ _ _ => rfl
  case video => exact atTag_redated fun _ _ _ _ => rfl
  case noThumbnail => exact atTag_redated fun _ _ _ _ => rfl
  case reflinkMark => exact atTag_redated fun _ _ _ _ => rfl
  case logo => exact atContent_redated logo_keepsDate
  all_goals
    refine atContent_redated fun text => modifyPost_keepsDate ?_
    simp only [Post.dated, implies_true]

/-! ### The date of a post that has been completed -/

/-- The same reading, but for the date of one post: the one in progress, or one that has been
collected since. -/
def OneDate (r r' : Reading) : Prop := Redated r r' ∨ ∃ a b, SameHistory a b r r'

theorem OneDate.configuration {r r' : Reading} (h : OneDate r r') :
    r'.configuration = r.configuration := by
  obtain ⟨moment, rfl⟩ | ⟨a, b, steps, -, rfl⟩ := h <;> rfl

/-- A message collects the post in progress with the date that it has. -/
theorem message_redated (comment : String) {r r' : Reading} (h : Redated r r') :
    message comment r' = message comment r ∨
      r.post.isSome = true ∧ ∃ post moment, SameHistory (r.collector.push post)
        (r.collector.push (post.dated moment)) (message comment r) (message comment r') := by
  obtain ⟨moment, rfl⟩ := h
  cases hpost : r.post with
  | none => exact .inl (by rw [modifyPost_of_none hpost])
  | some post =>
    let completed : Post :=
      { post with
        comment := some (Comment.withoutAbbreviation comment)
        attachments := r.slot.committed }
    refine .inr ⟨rfl, completed, moment, [], ?_, ?_⟩
    · simp only [message, hpost]
      rfl
    · simp only [message, modifyPost, hpost, Option.map_some]
      rfl

theorem rules_oneDate {rule : Rule Reading} (hrule : rule ∈ rules) : rule.Keeps OneDate := by
  have hhistory (a b : Collector) : rule.Keeps (SameHistory a b) :=
    Sheet.each_of_sheet (sheet_history a b) rule hrule
  obtain ⟨i, hi⟩ := List.mem_iff_getElem?.mp hrule
  by_cases hmessage : i = 15
  · subst hmessage
    obtain rfl := Option.some.inj hi
    refine Rule.atContent_keeps fun comment r r' h => ?_
    rcases h with h | ⟨a, b, h⟩
    · rcases message_redated comment h with heq | ⟨-, post, moment, hsame⟩
      · exact .inl (heq ▸ .refl _)
      · exact .inr ⟨_, _, hsame⟩
    · exact .inr ⟨a, b, (message_completes.drives comment).sameHistory h⟩
  · have hmem : rule ∈ rules.eraseIdx 15 := List.mem_eraseIdx_iff_getElem?.mpr ⟨i, hmessage, hi⟩
    exact (rules_redated rule hmem).or (.ofAll fun a => .ofAll fun b => hhistory a b)

/-- From readings that differ in one date the same tags are answered, and the same is told of the
board. -/
theorem read_oneDate (source : Source) {r r' : Reading} (h : OneDate r r') :
    visits source r' = visits source r ∧
      Alike OneDate (readWithSheet sheet source r) (readWithSheet sheet source r') := by
  have hk (v : Visit) (rule : Rule Reading) (hr : (Sheet.table sheet).rules[v.rule]? = some rule) :
      rule.Keeps OneDate := rules_oneDate (List.mem_of_getElem? hr)
  refine ⟨?_, Sheet.readWithSheet_alike sheet_sound source h fun v _ => hk v⟩
  unfold visits Sheet.visits
  cases source.markup with
  | error e => rfl
  | ok markup => exact (RuleTable.course_alike (Sheet.table sheet) markup.toList h _ fun v _ => hk v).1

section
variable {source : Source} {r r' : Reading}

/-- Whether the post in progress is the next to be completed: a message comes, and no reply before
it. -/
def completesPost (source : Source) (r : Reading) : Bool :=
  r.post.isSome && ((visits source r).find? fun v => isReply v || isMessage v).any isMessage

/-- Without a message the post in progress stays in progress. -/
theorem after_redated {vs : List Visit} (h : Redated r r') (hvs : vs <+: visits source r)
    (hno : ∀ v ∈ vs, isMessage v = false) :
    Redated ((Sheet.table sheet).after r vs) ((Sheet.table sheet).after r' vs) := by
  refine RuleTable.after_keeps (fun v hv rule hr => ?_) h
  obtain ⟨n, hn⟩ := List.mem_iff_getElem?.mp (hvs.subset hv)
  have hmade := visits_made hn
  have hmessage : v.rule ≠ 15 := fun he => by
    have := (isMessage_iff hmade).mpr he
    rw [hno v hv] at this
    cases this
  exact rules_redated rule (List.mem_eraseIdx_iff_getElem?.mpr ⟨v.rule, hmessage, hr⟩)

/-- Behind a message the readings go on with one history. -/
theorem after_history {a b : Collector} (h : SameHistory a b r r') (vs : List Visit) :
    SameHistory a b ((Sheet.table sheet).after r vs) ((Sheet.table sheet).after r' vs) :=
  RuleTable.after_keeps (fun _ _ rule hrule =>
    Sheet.each_of_sheet (sheet_history a b) rule (List.mem_of_getElem? hrule)) h

/-- What the tags of a beginning of a page do to the collector: no post is added without a message. -/
theorem collector_after {vs : List Visit} (hvs : vs <+: visits source r)
    (hno : ∀ v ∈ vs, isMessage v = false) :
    ∃ steps, pushed steps = [] ∧
      ((Sheet.table sheet).after r vs).collector = r.collector.run steps := by
  obtain ⟨rest, hrest⟩ := hvs
  have hrest : vs ++ rest = Sheet.visits sheet source r := hrest
  refine ⟨chronicle.history source r vs.length, ?_, ?_⟩
  · rw [chronicle.pushed_history]
    refine List.filterMap_eq_nil_iff.mpr fun n hn => ?_
    have hlt : n < vs.length := List.mem_range.mp hn
    have hn : (Sheet.visits sheet source r)[n]? = some vs[n] := by
      rw [← hrest, List.getElem?_append_left hlt, List.getElem?_eq_getElem hlt]
    rw [chronicle.completedAt_eq hn]
    exact messageRule.completed?_of_other (hno _ (List.getElem_mem hlt))
  · have hstate : stateAt source r vs.length = (Sheet.table sheet).after r vs := by
      unfold stateAt Sheet.stateAt
      rw [← hrest, List.take_left]
    rw [← hstate]
    refine chronicle.collector_stateAt vs.length ?_
    rw [← hrest, List.length_append]
    exact Nat.le_add_right ..

/-- A reply drops the post in progress, and a message collects it with the date that it has. -/
theorem apply_redated {v : Visit} (hv : v.MadeIn (Sheet.table sheet) r)
    (hv' : v.MadeIn (Sheet.table sheet) r') (h : Redated r r')
    (hmark : (isReply v || isMessage v) = true) :
    v.apply (Sheet.table sheet) r' = v.apply (Sheet.table sheet) r ∨
      isMessage v = true ∧ ∃ post moment,
        SameHistory (r.collector.push post) (r.collector.push (post.dated moment))
          (v.apply (Sheet.table sheet) r) (v.apply (Sheet.table sheet) r') := by
  cases hmessage : isMessage v with
  | false =>
    rw [hmessage, Bool.or_false, isReply_iff hv] at hmark
    have hrule : (Sheet.table sheet).rules[v.rule]? =
        some (.atTag (.startsWith "td" "id" "reply") reply) := by
      rw [hmark]
      rfl
    rw [Visit.apply_atTag hrule, Visit.apply_atTag hrule]
    exact .inl (reply_eq_of_redated v.attributes h)
  | true =>
    have hrule : (Sheet.table sheet).rules[v.rule]? =
        some (.atContent (.equals "div" "class" "message") message) := by
      rw [(isMessage_iff hv).mp hmessage]
      rfl
    obtain ⟨comment, hc, heq⟩ := Visit.apply_atContent hv rfl hrule
    obtain ⟨comment', hc', heq'⟩ := Visit.apply_atContent hv' rfl hrule
    obtain rfl := Option.some.inj (hc.symm.trans hc')
    rw [heq, heq']
    exact (message_redated comment h).imp_right fun hcollected => ⟨rfl, hcollected.2⟩

/-- **Of all that is read behind a date, only the date of the post in progress depends on it.** The
post is the next to be completed, or it is dropped and nothing at all depends on its date. -/
theorem read_redated {listing : Listing} {steps : List Step}
    (hr : r.collector = (fresh listing).run steps) (h : Redated r r') :
    (readWithSheet sheet source r').2.collector = (readWithSheet sheet source r).2.collector ∨
      completesPost source r = true ∧ RedatedAt (pushed steps).length
        (readWithSheet sheet source r).2.collector (readWithSheet sheet source r').2.collector := by
  by_cases hpost : r.post = none
  · obtain ⟨moment, rfl⟩ := h
    rw [modifyPost_of_none hpost]
    exact .inl rfl
  have hvisits := (read_oneDate source (.inl h)).1
  rw [Sheet.readWithSheet_after sheet_sound, Sheet.readWithSheet_after sheet_sound]
  show ((Sheet.table sheet).after r' (visits source r')).collector =
    ((Sheet.table sheet).after r (visits source r)).collector ∨ completesPost source r = true ∧
      RedatedAt _ ((Sheet.table sheet).after r (visits source r)).collector
        ((Sheet.table sheet).after r' (visits source r')).collector
  unfold completesPost
  rw [hvisits]
  have hneither {v : Visit} (hv : ¬(isReply v || isMessage v) = true) : isMessage v = false :=
    (Bool.or_eq_false_iff.mp (Bool.eq_false_iff.mpr hv)).2
  cases hfind : (visits source r).find? fun v => isReply v || isMessage v with
  | none =>
    have hno : ∀ v ∈ visits source r, isMessage v = false := fun v hv =>
      hneither (List.find?_eq_none.mp hfind v hv)
    obtain ⟨moment, heq⟩ := after_redated h (List.prefix_refl _) hno
    rw [heq]
    exact .inl rfl
  | some v =>
    obtain ⟨hmark, left, right, hsplit, hleft⟩ := List.find?_eq_some_iff_append.mp hfind
    have hno : ∀ u ∈ left, isMessage u = false := fun u hu =>
      hneither (by simpa using hleft u hu)
    have hprefix : left <+: visits source r := ⟨v :: right, hsplit.symm⟩
    obtain ⟨between, hnone, hbetween⟩ := collector_after hprefix hno
    rw [hr, ← Collector.run_append] at hbetween
    rw [hsplit, RuleTable.after_split, RuleTable.after_split]
    rcases apply_redated (Sheet.made_of_split hsplit) (Sheet.made_of_split (hvisits.trans hsplit))
      (after_redated h hprefix hno) hmark with heq | ⟨hmessage, post, moment, hhistory⟩
    · rw [heq]
      exact .inl rfl
    · rw [hbetween] at hhistory
      have hplace : (pushed (steps ++ between)).length = (pushed steps).length := by
        rw [Collector.pushed_append, hnone, List.append_nil]
      have hsome : r.post.isSome = true := Option.isSome_iff_ne_none.mpr hpost
      exact .inr ⟨by rw [hsome]; exact hmessage, hplace ▸ (after_history hhistory right).redatedAt⟩

/-- It is of no account which date the post has. -/
theorem completesPost_redated (h : Redated r r') :
    completesPost source r' = completesPost source r := by
  have hpost : r'.post.isSome = r.post.isSome := by
    obtain ⟨moment, rfl⟩ := h
    exact Option.isSome_map ..
  rw [completesPost, completesPost, hpost, (read_oneDate source (.inl h)).1]

end

end Imageboard.Wakaba
