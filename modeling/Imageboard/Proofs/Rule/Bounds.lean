import Imageboard.Proofs.Markup.Slices
import Imageboard.Proofs.Rule.Pieces

/-! Captures stay inside the page.

A capture begins behind a token, so that its content begins at a character boundary in front of
every token that is still to come, and as many elements are open in it as tokens have been read, at
the most. `step_inRange` is about one token, `steps_inRange` about a beginning of the page. -/
namespace Imageboard
open Text

/-- A capture that is in progress on the page between the tokens that have been read, `count` of
them, and those that are `later`. -/
structure Capture.InRange (page : String) (count : Nat) (later : List Located) (c : Capture σ) :
    Prop where
  depth_pos : 0 < c.depth
  depth_le : c.depth ≤ count
  boundary : (⟨c.start⟩ : String.Pos.Raw).IsValid page
  start_le : ∀ t ∈ later, c.start ≤ t.start
  content : ∀ t ∈ later,
    (slice page.toList c.start t.start).utf8Encode = page.toByteArray.extract c.start t.start
  rest : (slice page.toList c.start page.utf8ByteSize).utf8Encode =
    page.toByteArray.extract c.start page.utf8ByteSize

namespace Capture.InRange
variable {page : String} {count : Nat} {t : Located} {later : List Located} {c : Capture σ}

/-- A capture that begins behind a token. -/
theorem behind (hdepth : c.depth = 1) (hcount : 0 < count) (hstart : c.start = t.stop)
    {text : List Char} (ht : Spells page.toList t.start t.stop text)
    (hlater : ∀ u ∈ later, t.stop ≤ u.start ∧ ∃ text, Spells page.toList u.start u.stop text) :
    c.InRange page count later where
  depth_pos := by omega
  depth_le := by omega
  boundary := hstart ▸ ht.isValid_stop
  start_le := fun u hu => hstart ▸ (hlater u hu).1
  content := fun u hu => by
    obtain ⟨hle, text', hu⟩ := hlater u hu
    obtain ⟨middle, hmiddle⟩ := ht.between hu hle
    rw [hstart, hmiddle.slice_eq, hmiddle.extract_eq]
  rest := by
    obtain ⟨rest, hrest⟩ := ht.behind
    rw [byteLength_toList] at hrest
    rw [hstart, hrest.slice_eq, hrest.extract_eq]

/-- One more token in a capture that goes on. -/
theorem tracked (h : c.InRange page count (t :: later)) (hopen : c.depthAfter t.token ≠ 0) :
    ({ c with depth := c.depthAfter t.token } : Capture σ).InRange page (count + 1) later where
  depth_pos := Nat.pos_of_ne_zero hopen
  depth_le := by
    have hle := h.depth_le
    show c.depthAfter t.token ≤ count + 1
    rw [RuleTable.depthAfter_eq]
    split
    · omega
    · split <;> omega
  boundary := h.boundary
  start_le := fun u hu => h.start_le u (List.mem_cons_of_mem t hu)
  content := fun u hu => h.content u (List.mem_cons_of_mem t hu)
  rest := h.rest

end Capture.InRange

namespace RuleTable
variable {table : RuleTable σ} {page : String}

/-- One token keeps the capture inside the page. -/
theorem step_inRange {t : Located} {later : List Located} {count : Nat}
    {capture : Option (Capture σ)} {text : List Char} (ht : Spells page.toList t.start t.stop text)
    (hlater : ∀ u ∈ later, t.stop ≤ u.start ∧ ∃ text, Spells page.toList u.start u.stop text)
    (hcapture : ∀ c, capture = some c → c.InRange page count (t :: later)) {s s' : σ}
    {c : Capture σ} (h : outcome (table.step page.toList capture t) s = (.ok (some c), s')) :
    c.InRange page (count + 1) later := by
  obtain ⟨hdepth, hstart⟩ | ⟨old, hold, hopen, rfl⟩ := capture_of_step h
  · exact .behind hdepth (Nat.succ_pos count) hstart ht hlater
  · exact (hcapture old hold).tracked hopen

/-- A beginning of the tokens keeps the capture inside the page. -/
theorem steps_inRange {earlier later : List Located} {count : Nat} {capture : Option (Capture σ)}
    (hordered : (earlier ++ later).Pairwise fun t u => t.stop ≤ u.start)
    (hspells : ∀ t ∈ earlier ++ later, ∃ text, Spells page.toList t.start t.stop text)
    (hcapture : ∀ c, capture = some c → c.InRange page count (earlier ++ later)) {s s' : σ}
    {c : Capture σ} (h : outcome (table.steps page.toList capture earlier) s = (.ok (some c), s')) :
    c.InRange page (count + earlier.length) later := by
  induction earlier generalizing capture count s with
  | nil =>
    obtain ⟨hr, -⟩ := Prod.mk.inj h
    exact hcapture c (Except.ok.inj hr)
  | cons t earlier ih =>
    rw [List.cons_append] at hordered hspells hcapture
    obtain ⟨hle, hordered⟩ := List.pairwise_cons.mp hordered
    obtain ⟨⟨text, ht⟩, hspells⟩ := List.forall_mem_cons.mp hspells
    rw [steps, outcome_bind] at h
    cases hstep : outcome (table.step page.toList capture t) s with
    | mk result s'' =>
      rw [hstep] at h
      cases result with
      | error failure => cases h
      | ok next =>
        rw [List.length_cons, Nat.add_comm earlier.length, ← Nat.add_assoc]
        refine ih hordered hspells (fun c hc => ?_) h
        subst hc
        exact step_inRange ht (fun u hu => ⟨hle u hu, hspells u hu⟩) hcapture hstep

/-- Whatever a reading of the page has captured, behind any of its tokens, is inside the page. -/
def CapturesInRange (table : RuleTable σ) (page : String) : Prop :=
  ∀ earlier later, tokens table.options page.toList = earlier ++ later → ∀ s c s',
    outcome (table.steps page.toList none earlier) s = (.ok (some c), s') →
      c.InRange page earlier.length later

theorem capturesInRange (table : RuleTable σ) (page : String) : table.CapturesInRange page := by
  intro earlier later htokens s c s' h
  have hordered := located_pairwise [] (lexemes table.options page.toList)
  have hspells : ∀ t ∈ tokens table.options page.toList,
      ∃ text, Spells page.toList t.start t.stop text := fun t ht => by
    obtain ⟨l, -, -, hspells⟩ := spells_of_mem_tokens ht
    exact ⟨l.spelling, hspells⟩
  have hnone : ∀ c : Capture σ, none = some c → c.InRange page 0 (earlier ++ later) := nofun
  have hrange := steps_inRange (htokens ▸ hordered) (htokens ▸ hspells) hnone h
  rwa [Nat.zero_add] at hrange

end RuleTable

end Imageboard
