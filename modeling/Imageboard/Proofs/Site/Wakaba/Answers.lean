import Imageboard.Proofs.Post.MessageRule
import Imageboard.Proofs.Rule.Apart
import Imageboard.Proofs.Rule.Places
import Imageboard.Proofs.Site.Wakaba

/-! What the tags of a wakaba page do to a reading.

`Answer` lists all that answering a tag can come to, and `answer_of_made` is the only place where
the rules of the sheet are gone through one by one. From it follows what the posts of a page are:
those that a message completes, in the order of the page (`allPosts_eq_completed`). -/
namespace Imageboard.Wakaba
open Collector (Step fresh pushed)
open Reading

/-- The rules of the sheet, each at its place. -/
def rules : List (Rule Reading) :=
  [.atTag (.equals "input" "name" "delete") checkbox,
   .atTag (.startsWith "td" "id" "reply") reply,
   .atTag (.equals "span" "class" "filesize") fileSize,
   .asking (.name "a") link linkText,
   .atTag (.startsWith "img" "class" "thumb") thumbnail,
   .atTag (.startsWith "video" "class" "thumb") video,
   .atTag (.equals "div" "class" "nothumb") noThumbnail,
   .atContent (.equals "span" "class" "filetitle") subject,
   .atContent (.equals "span" "class" "replytitle") subject,
   .atTag (.equals "img" "class" "poster-country") country,
   .atContent (.equals "span" "class" "posteruid") identifier,
   .atContent (.equals "span" "class" "postername postername-admin") capcode,
   .atContent (.startsWith "span" "class" "postername") posterName,
   .atContent (.equals "span" "class" "postertrip") tripcode,
   .asking (.equals "span" "class" "posterdate") date printedDate,
   .atContent (.equals "div" "class" "message") message,
   .atContent (.equals "div" "class" "omittedposts") omittedPosts,
   .atContent (.equals "div" "class" "logo") logo,
   .atTag (.equals "span" "class" "reflink") reflinkMark,
   .atTag (.endsWith "img" "src" "/icons/sticky.png") sticky,
   .atTag (.endsWith "img" "src" "/icons/endless.png") cyclical]

theorem table_rules : (Sheet.table sheet).rules = rules := rfl

/-! ### Marks

Which mark a tag is can be told from the tag alone: no two of these patterns match one tag, nor does
a rule that stands before the one for the mark. -/

def isCheckbox (v : Visit) : Bool := v.meets (.equals "input" "name" "delete")

def isReply (v : Visit) : Bool := v.meets (.startsWith "td" "id" "reply")

def isFileSize (v : Visit) : Bool := v.meets (.equals "span" "class" "filesize")

def isLink (v : Visit) : Bool := v.meets (.name "a")

def isThumbnail (v : Visit) : Bool := v.meets (.startsWith "img" "class" "thumb")

def isVideo (v : Visit) : Bool := v.meets (.startsWith "video" "class" "thumb")

def isNoThumbnail (v : Visit) : Bool := v.meets (.equals "div" "class" "nothumb")

def isMessage (v : Visit) : Bool := v.meets (.equals "div" "class" "message")

def isOmittedPosts (v : Visit) : Bool := v.meets (.equals "div" "class" "omittedposts")

def isReflinkMark (v : Visit) : Bool := v.meets (.equals "span" "class" "reflink")

section
variable {v : Visit} {r : Reading}

theorem isCheckbox_iff (hv : v.MadeIn (Sheet.table sheet) r) : isCheckbox v = true ↔ v.rule = 0 :=
  RuleTable.meets_iff 0 rfl rfl hv

theorem isReply_iff (hv : v.MadeIn (Sheet.table sheet) r) : isReply v = true ↔ v.rule = 1 :=
  RuleTable.meets_iff 1 rfl rfl hv

theorem isFileSize_iff (hv : v.MadeIn (Sheet.table sheet) r) : isFileSize v = true ↔ v.rule = 2 :=
  RuleTable.meets_iff 2 rfl rfl hv

theorem isLink_iff (hv : v.MadeIn (Sheet.table sheet) r) : isLink v = true ↔ v.rule = 3 :=
  RuleTable.meets_iff 3 rfl rfl hv

theorem isThumbnail_iff (hv : v.MadeIn (Sheet.table sheet) r) : isThumbnail v = true ↔ v.rule = 4 :=
  RuleTable.meets_iff 4 rfl rfl hv

theorem isVideo_iff (hv : v.MadeIn (Sheet.table sheet) r) : isVideo v = true ↔ v.rule = 5 :=
  RuleTable.meets_iff 5 rfl rfl hv

theorem isNoThumbnail_iff (hv : v.MadeIn (Sheet.table sheet) r) :
    isNoThumbnail v = true ↔ v.rule = 6 :=
  RuleTable.meets_iff 6 rfl rfl hv

theorem isMessage_iff (hv : v.MadeIn (Sheet.table sheet) r) : isMessage v = true ↔ v.rule = 15 :=
  RuleTable.meets_iff 15 rfl rfl hv

theorem isOmittedPosts_iff (hv : v.MadeIn (Sheet.table sheet) r) :
    isOmittedPosts v = true ↔ v.rule = 16 :=
  RuleTable.meets_iff 16 rfl rfl hv

theorem isReflinkMark_iff (hv : v.MadeIn (Sheet.table sheet) r) :
    isReflinkMark v = true ↔ v.rule = 18 :=
  RuleTable.meets_iff 18 rfl rfl hv

end

/-! ### Answers -/

/-- The places of the rules for the head of a post. -/
def headRules : List Nat := [7, 8, 9, 10, 11, 12, 13, 14, 19, 20]

theorem ne_of_mem_headRules {i j : Nat} (h : i ∈ headRules) (hj : j ∉ headRules) : i ≠ j :=
  fun he => hj (he ▸ h)

/-- A change of a post that leaves its number, and the number of its thread once that is known. -/
structure KeepsNumbers (f : Post → Post) : Prop where
  number (p : Post) : (f p).number = p.number
  parentNumber (p : Post) (h : p.parentNumber.isSome = true) : (f p).parentNumber = p.parentNumber

theorem KeepsNumbers.id : KeepsNumbers id := ⟨fun _ => rfl, fun _ _ => rfl⟩

theorem KeepsNumbers.timestamp (moment : Option Int64) :
    KeepsNumbers fun post => { post with timestamp := moment } := ⟨fun _ => rfl, fun _ _ => rfl⟩

theorem KeepsNumbers.comp {g f : Post → Post} (hg : KeepsNumbers g) (hf : KeepsNumbers f) :
    KeepsNumbers (g ∘ f) where
  number p := (hg.number (f p)).trans (hf.number p)
  parentNumber p h := by
    have hp := hf.parentNumber p h
    exact (hg.parentNumber (f p) (hp ▸ h)).trans hp

/-- All that answering a tag can come to. Marks in the head of a post change the post in progress
and nothing else, and leave the numbers it goes by. -/
inductive Answer (v : Visit) (r : Reading) : Reading → Prop where
  | checkbox (h : v.rule = 0) : Answer v r (checkbox v.attributes r)
  | reply (h : v.rule = 1) : Answer v r (reply v.attributes r)
  | fileSize (h : v.rule = 2) : Answer v r (fileSize v.attributes r)
  | link (h : v.rule = 3) (hno : (link v.attributes r).1 = false) :
    Answer v r (link v.attributes r).2
  | linkText (h : v.rule = 3) (hyes : (Reading.link v.attributes r).1 = true) (text : String)
    (hc : v.content = some text) : Answer v r (linkText text (Reading.link v.attributes r).2)
  | thumbnail (h : v.rule = 4) : Answer v r (thumbnail v.attributes r)
  | video (h : v.rule = 5) : Answer v r (video v.attributes r)
  | noThumbnail (h : v.rule = 6) : Answer v r (noThumbnail v.attributes r)
  | head (h : v.rule ∈ headRules) (f : Post → Post) (hf : KeepsNumbers f) :
    Answer v r (r.modifyPost f)
  | message (h : v.rule = 15) (comment : String) (hc : v.content = some comment) :
    Answer v r (message comment r)
  | omittedPosts (h : v.rule = 16) (text : String) (hc : v.content = some text) :
    Answer v r (omittedPosts text r)
  | logo (h : v.rule = 17) (text : String) (hc : v.content = some text) : Answer v r (logo text r)
  | reflinkMark (h : v.rule = 18) : Answer v r (reflinkMark v.attributes r)

theorem modifyPost_id (r : Reading) : r.modifyPost id = r := by
  unfold modifyPost
  rw [Option.map_id]
  rfl

theorem modifyPost_modifyPost (r : Reading) (f g : Post → Post) :
    (r.modifyPost f).modifyPost g = r.modifyPost (g ∘ f) := by
  unfold modifyPost
  rw [Option.map_map]

theorem country_eq (attributes : Attributes) (r : Reading) :
    ∃ f, country attributes r = r.modifyPost f ∧ KeepsNumbers f := by
  unfold country
  split
  · exact ⟨_, rfl, fun _ => rfl, fun _ _ => rfl⟩
  · exact ⟨id, (modifyPost_id r).symm, .id⟩

theorem posterName_eq (markup : String) (r : Reading) :
    ∃ f, posterName markup r = r.modifyPost f ∧ KeepsNumbers f := by
  have hemail (email : Option String) (post : Post) :
      (withEmail email post).number = post.number ∧
        (withEmail email post).parentNumber = post.parentNumber := by
    unfold withEmail
    split
    · exact ⟨rfl, rfl⟩
    · split <;> exact ⟨rfl, rfl⟩
  have hname (part : String) (post : Post) :
      (post.appendName part).number = post.number ∧
        (post.appendName part).parentNumber = post.parentNumber := by
    unfold Post.appendName
    split <;> exact ⟨rfl, rfl⟩
  refine ⟨_, rfl, fun p => ?_, fun p _ => ?_⟩
  · exact (hname _ _).1.trans (hemail _ p).1
  · exact (hname _ _).2.trans (hemail _ p).2

theorem answer_of_made {v : Visit} {r : Reading} (hv : v.MadeIn (Sheet.table sheet) r) :
    Answer v r (v.apply (Sheet.table sheet) r) := by
  obtain ⟨rule, hfirst, -⟩ := id hv
  have hrule := (RuleTable.firstRule?_eq_some hfirst).1
  have hat (i : Nat) (hi : v.rule = i) : (Sheet.table sheet).rules[v.rule]? = rules[i]? := by
    rw [hi, table_rules]
  have hhead (i : Nat) (h : v.rule = i) {pattern : TagPattern} {change : String → Reading → Reading}
      (hi : rules[i]? = some (.atContent pattern change)) (hmem : i ∈ headRules)
      (hchange : ∀ text, ∃ f, change text r = r.modifyPost f ∧ KeepsNumbers f) :
      Answer v r (v.apply (Sheet.table sheet) r) := by
    obtain ⟨text, -, heq⟩ := Visit.apply_atContent hv rfl ((hat i h).trans hi)
    obtain ⟨f, hf, hkeeps⟩ := hchange text
    rw [heq, hf]
    exact .head (h ▸ hmem) f hkeeps
  match h : v.rule with
  | 0 => rw [Visit.apply_atTag (hat 0 h)]; exact .checkbox h
  | 1 => rw [Visit.apply_atTag (hat 1 h)]; exact .reply h
  | 2 => rw [Visit.apply_atTag (hat 2 h)]; exact .fileSize h
  | 3 =>
    rcases Visit.apply_asking hv rfl (hat 3 h) with ⟨hno, heq⟩ | ⟨text, hc, hyes, heq⟩
    · rw [heq]; exact .link h hno
    · rw [heq]; exact .linkText h hyes text hc
  | 4 => rw [Visit.apply_atTag (hat 4 h)]; exact .thumbnail h
  | 5 => rw [Visit.apply_atTag (hat 5 h)]; exact .video h
  | 6 => rw [Visit.apply_atTag (hat 6 h)]; exact .noThumbnail h
  | 7 => exact hhead 7 h rfl (by decide) fun _ => ⟨_, rfl, fun _ => rfl, fun _ _ => rfl⟩
  | 8 => exact hhead 8 h rfl (by decide) fun _ => ⟨_, rfl, fun _ => rfl, fun _ _ => rfl⟩
  | 9 =>
    obtain ⟨f, hf, hkeeps⟩ := country_eq v.attributes r
    rw [Visit.apply_atTag (hat 9 h), hf]
    exact .head (h ▸ (by decide : 9 ∈ headRules)) f hkeeps
  | 10 => exact hhead 10 h rfl (by decide) fun _ => ⟨_, rfl, fun _ => rfl, fun _ _ => rfl⟩
  | 11 => exact hhead 11 h rfl (by decide) fun _ => ⟨_, rfl, fun _ => rfl, fun _ _ => rfl⟩
  | 12 => exact hhead 12 h rfl (by decide) fun text => posterName_eq text r
  | 13 => exact hhead 13 h rfl (by decide) fun _ => ⟨_, rfl, fun _ => rfl, fun _ _ => rfl⟩
  | 14 =>
    rcases Visit.apply_asking hv rfl (hat 14 h) with ⟨-, heq⟩ | ⟨text, -, -, heq⟩
    · rw [heq]
      exact .head (h ▸ (by decide : 14 ∈ headRules)) _ (.timestamp _)
    · rw [heq, date, printedDate, modifyPost_modifyPost]
      exact .head (h ▸ (by decide : 14 ∈ headRules)) _ (.comp (.timestamp _) (.timestamp _))
  | 15 =>
    obtain ⟨comment, hc, heq⟩ := Visit.apply_atContent hv rfl (hat 15 h)
    rw [heq]; exact .message h comment hc
  | 16 =>
    obtain ⟨text, hc, heq⟩ := Visit.apply_atContent hv rfl (hat 16 h)
    rw [heq]; exact .omittedPosts h text hc
  | 17 =>
    obtain ⟨text, hc, heq⟩ := Visit.apply_atContent hv rfl (hat 17 h)
    rw [heq]; exact .logo h text hc
  | 18 => rw [Visit.apply_atTag (hat 18 h)]; exact .reflinkMark h
  | 19 =>
    rw [Visit.apply_atTag (hat 19 h)]
    exact .head (h ▸ (by decide : 19 ∈ headRules)) _ ⟨fun _ => rfl, fun _ _ => rfl⟩
  | 20 =>
    rw [Visit.apply_atTag (hat 20 h)]
    exact .head (h ▸ (by decide : 20 ∈ headRules)) _ ⟨fun _ => rfl, fun _ _ => rfl⟩
  | n + 21 =>
    rw [h] at hrule
    cases hrule

/-- A message completes the post in progress and leaves none. -/
theorem apply_message {v : Visit} {r : Reading} (hv : v.MadeIn (Sheet.table sheet) r)
    (hmessage : isMessage v = true) {post : Post} (hpost : r.post = some post) :
    ∃ completed, v.apply (Sheet.table sheet) r =
      { r with post := none, slot := {}, collector := r.collector.push completed } := by
  have hrule := (isMessage_iff hv).mp hmessage
  have hanswer := answer_of_made hv
  generalize v.apply (Sheet.table sheet) r = r' at hanswer ⊢
  cases hanswer with
  | message h comment hc =>
    unfold message
    rw [hpost]
    exact ⟨_, rfl⟩
  | head h => exact absurd hrule (ne_of_mem_headRules h (by decide))
  | _ => omega

/-- What a link may change: the pending file, the thread that the post in progress names, and the
pages known of the board. Afterwards no link is awaited, and no text of a link. -/
structure Linked (r r' : Reading) : Prop where
  slot : ∃ f, r'.slot = r.slot.modifyPending f
  post : ∃ f, r'.post = r.post.map f ∧ KeepsNumbers f
  rest : r' =
    { r with
      slot := r'.slot
      post := r'.post
      reflink := false
      linkUse := none
      pagesCount := r'.pagesCount
      configuration := r'.configuration }

theorem slot_modifyPending_id (s : AttachmentSlot) : s.modifyPending id = s := by
  unfold AttachmentSlot.modifyPending
  rw [Option.map_id]
  rfl

theorem slot_modifyPending_modifyPending (s : AttachmentSlot) (f g : Attachment → Attachment) :
    (s.modifyPending f).modifyPending g = s.modifyPending (g ∘ f) := by
  unfold AttachmentSlot.modifyPending
  rw [Option.map_map]

theorem pageLink_eq (text : String) (r : Reading) :
    ∃ pages configuration,
      pageLink text r = { r with pagesCount := pages, configuration := configuration } := by
  unfold pageLink
  split
  · exact ⟨r.pagesCount, r.configuration, rfl⟩
  · split
    · exact ⟨_, _, rfl⟩
    · exact ⟨r.pagesCount, r.configuration, rfl⟩

/-- A link around a number tells the thread only where it is not known. -/
theorem followReflink_eq (href : String) (r : Reading) :
    ∃ f, followReflink href r = r.modifyPost f ∧ KeepsNumbers f := by
  unfold followReflink
  split
  · exact ⟨id, (modifyPost_id r).symm, .id⟩
  · refine ⟨_, rfl, fun p => ?_, fun p hp => ?_⟩
    · split <;> rfl
    · have hknown : p.parentNumber.isNone = false := by rw [← Option.not_isSome, hp]; rfl
      simp [hknown]

theorem link_linked {attributes : Attributes} {r : Reading} (hno : (link attributes r).1 = false) :
    Linked r (link attributes r).2 := by
  unfold link at hno ⊢
  cases hr : r.reflink with
  | true =>
    obtain ⟨f, hf, hkeeps⟩ :=
      followReflink_eq (attributes.getD "href") { r with reflink := false, linkUse := none }
    rw [if_pos rfl, hf]
    exact ⟨⟨id, (slot_modifyPending_id _).symm⟩, ⟨f, rfl, hkeeps⟩, rfl⟩
  | false =>
    rw [hr, if_neg Bool.false_ne_true] at hno
    rw [if_neg Bool.false_ne_true]
    cases hfile : linkedFile? (attributes.getD "href") r with
    | some file =>
      rw [hfile] at hno
      dsimp only at hno ⊢
      rw [if_neg (by rw [hno]; exact Bool.false_ne_true)]
      exact ⟨⟨_, rfl⟩, ⟨id, Option.map_id.symm ▸ rfl, .id⟩, by rw [← hr]⟩
    | none =>
      rw [hfile] at hno
      dsimp only at hno ⊢
      split at hno
      · cases hno
      · rename_i hpage
        rw [if_neg hpage]
        exact ⟨⟨id, (slot_modifyPending_id _).symm⟩, ⟨id, Option.map_id.symm ▸ rfl, .id⟩, by rw [← hr]⟩

theorem linkText_linked {attributes : Attributes} {r : Reading}
    (hyes : (link attributes r).1 = true) (text : String) :
    Linked r (linkText text (link attributes r).2) := by
  unfold link at hyes ⊢
  cases hr : r.reflink with
  | true =>
    rw [hr, if_pos rfl] at hyes
    cases hyes
  | false =>
    rw [hr, if_neg Bool.false_ne_true] at hyes
    rw [if_neg Bool.false_ne_true]
    cases hfile : linkedFile? (attributes.getD "href") r with
    | some file =>
      rw [hfile] at hyes
      dsimp only at hyes ⊢
      rw [if_pos hyes]
      exact ⟨⟨_, slot_modifyPending_modifyPending r.slot _ _⟩, ⟨id, Option.map_id.symm ▸ rfl, .id⟩,
        by rw [← hr]; rfl⟩
    | none =>
      rw [hfile] at hyes
      dsimp only at hyes ⊢
      split at hyes
      · rename_i hpage
        rw [if_pos hpage]
        obtain ⟨pages, configuration, heq⟩ :=
          pageLink_eq text { r with reflink := false, linkUse := none }
        show Linked r (pageLink text { r with reflink := false, linkUse := none })
        rw [heq]
        exact ⟨⟨id, (slot_modifyPending_id _).symm⟩, ⟨id, Option.map_id.symm ▸ rfl, .id⟩, rfl⟩
      · cases hyes

/-! ### Posts -/

/-- Whether a checkbox begins a thread. -/
def beginsThread (r : Reading) (v : Visit) : Bool :=
  isCheckbox v && v.attributes.get? "type" == some "checkbox" && !r.post.any (·.number.isSome)

def messageRule : MessageRule sheet where
  toCompletion := completion
  isMessage := isMessage
  message := message
  pattern := .equals "div" "class" "message"
  place := 15
  at_place := rfl
  isMessage_iff := isMessage_iff

/-- The post that a message completes. -/
abbrev completed? (r : Reading) (v : Visit) : Option Post := messageRule.completed? r v

theorem completed?_eq_none {v : Visit} {r : Reading} (hv : v.MadeIn (Sheet.table sheet) r)
    (h : v.rule ≠ 15) : completed? r v = none :=
  messageRule.completed?_of_other (eq_false_of_ne (isMessage_iff hv) h)

/-- What answering a tag does to the collector. -/
def collectorSteps (r : Reading) (v : Visit) : List Step :=
  if beginsThread r v then [.begin]
  else if isOmittedPosts v then ((v.content.bind Counter.read?).map Step.addPosts).toList
  else ((completed? r v).map Step.push).toList

theorem collector_apply {v : Visit} {r : Reading} (hv : v.MadeIn (Sheet.table sheet) r) :
    (v.apply (Sheet.table sheet) r).collector = r.collector.run (collectorSteps r v) := by
  -- The mark that answered decides which steps there are; all other marks make none.
  have hsteps (hcheckbox : v.rule ≠ 0) (homitted : v.rule ≠ 16) :
      collectorSteps r v = ((completed? r v).map Step.push).toList := by
    simp [collectorSteps, beginsThread, eq_false_of_ne (isCheckbox_iff hv) hcheckbox,
      eq_false_of_ne (isOmittedPosts_iff hv) homitted]
  have hnone (hcheckbox : v.rule ≠ 0) (homitted : v.rule ≠ 16) (hmessage : v.rule ≠ 15) :
      collectorSteps r v = [] := by
    rw [hsteps hcheckbox homitted, completed?_eq_none hv hmessage]
    rfl
  have hanswer := answer_of_made hv
  generalize v.apply (Sheet.table sheet) r = r' at hanswer ⊢
  cases hanswer with
  | checkbox h =>
    have hsteps : collectorSteps r v = if beginsThread r v then [.begin] else [] := by
      simp [collectorSteps, completed?_eq_none hv (by omega : v.rule ≠ 15),
        eq_false_of_ne (isOmittedPosts_iff hv) (by omega)]
    rw [hsteps]
    have hbegins : beginsThread r v =
        !(v.attributes.get? "type" != some "checkbox" || r.post.any (·.number.isSome)) := by
      unfold beginsThread
      rw [(isCheckbox_iff hv).mpr h, Bool.true_and, Bool.not_or, bne, Bool.not_not]
    rw [hbegins]
    unfold checkbox
    split
    · rename_i hskip
      rw [hskip]
      rfl
    · rename_i hbegin
      rw [Bool.eq_false_iff.mpr hbegin]
      rfl
  | message h comment hc =>
    rw [hsteps (by omega) (by omega), completed?,
      messageRule.completed?_of_message ((isMessage_iff hv).mpr h) hc]
    exact message_completes.collector_eq comment r
  | omittedPosts h text hc =>
    have hsteps : collectorSteps r v = ((Counter.read? text).map Step.addPosts).toList := by
      simp [collectorSteps, beginsThread, eq_false_of_ne (isCheckbox_iff hv) (by omega),
        (isOmittedPosts_iff hv).mpr h, hc]
    rw [hsteps]
    unfold omittedPosts
    cases Counter.read? text <;> rfl
  | link h hno =>
    rw [hnone (by omega) (by omega) (by omega), (link_linked hno).rest]
    rfl
  | linkText h hyes text hc =>
    rw [hnone (by omega) (by omega) (by omega), (linkText_linked hyes text).rest]
    rfl
  | head h f =>
    have hne {i : Nat} (hi : i ∉ headRules) : v.rule ≠ i := ne_of_mem_headRules h hi
    rw [hnone (hne (by decide)) (hne (by decide)) (hne (by decide))]
    rfl
  | logo h text hc =>
    rw [hnone (by omega) (by omega) (by omega)]
    unfold logo
    rfl
  | reply h | fileSize h | thumbnail h | video h | noThumbnail h | reflinkMark h =>
    rw [hnone (by omega) (by omega) (by omega)]
    rfl

theorem pushed_collectorSteps {v : Visit} {r : Reading} (hv : v.MadeIn (Sheet.table sheet) r) :
    pushed (collectorSteps r v) = (completed? r v).toList := by
  unfold collectorSteps
  split
  · rename_i hbegins
    simp only [beginsThread, Bool.and_eq_true, isCheckbox_iff hv] at hbegins
    rw [completed?_eq_none hv (by omega)]
    rfl
  · split
    · rename_i homitted
      rw [isOmittedPosts_iff hv] at homitted
      rw [completed?_eq_none hv (by omega)]
      cases v.content.bind Counter.read? <;> rfl
    · cases completed? r v <;> rfl

theorem collectorSteps_inside {v : Visit} {r : Reading} (h : beginsThread r v = false) :
    ∀ step ∈ collectorSteps r v, step.isBoundary = false := by
  unfold collectorSteps
  rw [h, if_neg Bool.false_ne_true]
  split
  · cases v.content.bind Counter.read? <;> simp [Step.isBoundary]
  · cases completed? r v <;> simp [Step.isBoundary]

/-- What a wakaba page does to a collector. -/
def chronicle : Chronicle sheet where
  steps := collectorSteps
  begins := beginsThread
  completed? := completed?
  collector_apply := collector_apply
  steps_begins h := if_pos h
  steps_inside := collectorSteps_inside
  pushed_steps := pushed_collectorSteps

section
variable (source : Source) (r : Reading)

/-- The tags of a page that are answered. -/
abbrev visits : List Visit := Sheet.visits sheet source r

/-- The state after the first `n` of them. -/
abbrev stateAt (n : Nat) : Reading := Sheet.stateAt sheet source r n

abbrev markAt (mark : Visit → Bool) (n : Nat) : Bool := Sheet.markAt sheet source r mark n

abbrev toldAt (tells : Visit → Option α) (n : Nat) : Option α := Sheet.toldAt sheet source r tells n

/-- Whether the tag at place `n` begins a thread. -/
abbrev beginsAt (n : Nat) : Bool := chronicle.beginsAt source r n

/-- The post that the tag at place `n` completes. -/
abbrev completedAt (n : Nat) : Option Post := chronicle.completedAt source r n

abbrev completesAt (n : Nat) : Bool := chronicle.completesAt source r n

/-- The posts that the first `n` tags complete. -/
abbrev completedPosts (n : Nat) : List Post := chronicle.completedPosts source r n

variable {source r}

theorem stateAt_succ {n : Nat} {v : Visit} (h : (visits source r)[n]? = some v) :
    stateAt source r (n + 1) = v.apply (Sheet.table sheet) (stateAt source r n) :=
  Sheet.stateAt_succ h

theorem visits_made {n : Nat} {v : Visit} (h : (visits source r)[n]? = some v) :
    v.MadeIn (Sheet.table sheet) (stateAt source r n) :=
  Sheet.visits_made h

theorem markAt_eq {n : Nat} {v : Visit} (h : (visits source r)[n]? = some v)
    (mark : Visit → Bool) : markAt source r mark n = mark v :=
  Sheet.markAt_eq h mark

theorem toldAt_eq {n : Nat} {v : Visit} (h : (visits source r)[n]? = some v)
    (tells : Visit → Option α) : toldAt source r tells n = tells v :=
  Sheet.toldAt_eq h tells

theorem beginsAt_eq {n : Nat} {v : Visit} (h : (visits source r)[n]? = some v) :
    beginsAt source r n = beginsThread (stateAt source r n) v :=
  chronicle.beginsAt_eq h

theorem completesAt_eq {n : Nat} {v : Visit} (h : (visits source r)[n]? = some v) :
    completesAt source r n = (isMessage v && (stateAt source r n).post.isSome) :=
  messageRule.completesAt_eq rfl h

theorem completedPosts_succ {n : Nat} {v : Visit} (h : (visits source r)[n]? = some v) :
    completedPosts source r (n + 1) =
      completedPosts source r n ++ (completed? (stateAt source r n) v).toList :=
  chronicle.completedPosts_succ h

end

/-- Reading a page fails only where its source does; otherwise it collects what the page tells. -/
theorem readPage_eq (locator : Locator) (board : String) (namesFiles : Bool) (listing : Listing)
    (source : Source) (configuration : Configuration) :
    let r := start locator board namesFiles listing configuration
    (readPage locator board namesFiles listing source configuration).1 =
      source.markup.map fun _ =>
        (fresh listing).run (chronicle.history source r (visits source r).length) :=
  chronicle.collector_read sheet_sound sheet_neverFails source _

/-- The posts of a page are those that its messages complete, in the order of the page. -/
theorem allPosts_eq_completed (locator : Locator) (board : String) (namesFiles : Bool)
    (listing : Listing) (source : Source) (configuration : Configuration) :
    let r := start locator board namesFiles listing configuration
    (readPage locator board namesFiles listing source configuration).1.map Collector.allPosts =
      source.markup.map fun _ => completedPosts source r (visits source r).length :=
  chronicle.allPosts_read (readPage_eq locator board namesFiles listing source configuration)

end Imageboard.Wakaba
