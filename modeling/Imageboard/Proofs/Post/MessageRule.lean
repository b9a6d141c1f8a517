import Imageboard.Proofs.Post.Chronicle

/-! Posts that messages complete.

A site says by a `MessageRule` which rule of its sheet answers messages. A message is always handed
over, at the end of the page at the latest, and completes a post exactly where one is in progress:
`completed?_isSome`. -/
namespace Imageboard

/-- The rule that answers the messages of a site. -/
structure MessageRule (sheet : List (Entry σ)) extends Completion σ where
  isMessage : Visit → Bool
  message : String → σ → σ
  pattern : TagPattern
  place : Nat
  at_place : (Sheet.table sheet).rules[place]? = some (.atContent pattern message)
  isMessage_iff {v : Visit} {s : σ} (hv : v.MadeIn (Sheet.table sheet) s) :
    isMessage v = true ↔ v.rule = place

namespace MessageRule
variable {sheet : List (Entry σ)} (M : MessageRule sheet) {v : Visit} {s : σ}

/-- The post that a tag completes. -/
def completed? (s : σ) (v : Visit) : Option Post :=
  if M.isMessage v then v.content.bind fun text => M.toCompletion.completed? text s else none

/-- A message is always handed over, at the end of the page at the latest. -/
theorem content_of_message (hv : v.MadeIn (Sheet.table sheet) s) (h : M.isMessage v = true) :
    ∃ text, v.content = some text := by
  have hrule := M.at_place
  rw [← (M.isMessage_iff hv).mp h] at hrule
  obtain ⟨text, hcontent, -⟩ := Visit.apply_atContent hv rfl hrule
  exact ⟨text, hcontent⟩

theorem completed?_of_message {text : String} (h : M.isMessage v = true)
    (hcontent : v.content = some text) :
    M.completed? s v = M.toCompletion.completed? text s := by
  rw [completed?, if_pos h, hcontent, Option.bind_some]

theorem completed?_of_other (h : M.isMessage v = false) : M.completed? s v = none := by
  rw [completed?, h, if_neg Bool.false_ne_true]

theorem completed?_eq_some {post : Post} (h : M.completed? s v = some post) :
    ∃ text p, v.content = some text ∧ M.post s = some p ∧ post =
      { p with comment := some (M.comment text), attachments := (M.slot s).committed } := by
  unfold completed? at h
  split at h
  · obtain ⟨text, hcontent, hpost⟩ := Option.bind_eq_some_iff.mp h
    obtain ⟨p, hp, rfl⟩ := Option.map_eq_some_iff.mp hpost
    exact ⟨text, p, hcontent, hp, rfl⟩
  · cases h

theorem comment_of_completed? {post : Post} (h : M.completed? s v = some post) :
    ∃ text, v.content = some text ∧ post.comment = some (M.comment text) := by
  obtain ⟨text, p, hcontent, -, rfl⟩ := M.completed?_eq_some h
  exact ⟨text, hcontent, rfl⟩

/-- A message completes a post exactly where one is in progress. -/
theorem completed?_isSome (hv : v.MadeIn (Sheet.table sheet) s) :
    (M.completed? s v).isSome = (M.isMessage v && (M.post s).isSome) := by
  cases hmessage : M.isMessage v
  · rw [M.completed?_of_other hmessage, Bool.false_and]
    rfl
  · obtain ⟨text, hcontent⟩ := M.content_of_message hv hmessage
    rw [M.completed?_of_message hmessage hcontent, Completion.completed?, Option.isSome_map,
      Bool.true_and]

/-- In a chronicle whose posts are those of the messages. -/
theorem completesAt_eq [Collecting σ] {C : Chronicle sheet} (hC : C.completed? = M.completed?)
    {source : Source} {n : Nat} (hv : (Sheet.visits sheet source s)[n]? = some v) :
    C.completesAt source s n =
      (M.isMessage v && (M.post (Sheet.stateAt sheet source s n)).isSome) := by
  rw [← M.completed?_isSome (Sheet.visits_made hv), ← hC]
  exact congrArg Option.isSome (C.completedAt_eq hv)

end MessageRule

end Imageboard
