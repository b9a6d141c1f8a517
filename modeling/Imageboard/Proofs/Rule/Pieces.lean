import Imageboard.Proofs.Markup.Coverage
import Imageboard.Proofs.Markup.Cut
import Imageboard.Proofs.Rule.Capture

/-! A page read in two pieces.

What a run keeps from one token to the next is the capture in progress, and of the page it only ever
looks at the stretch between the start of a capture and a token behind it. So where a page is cut
behind a token and outside any capture, `runOn_append` reads the pieces one after the other. -/
namespace Imageboard
open Text

namespace Text

/-- Cutting out of the second of two texts: the bytes of the first only move the offsets. -/
theorem slice_append_left (a b : List Char) (i j : Nat) :
    slice (a ++ b) (byteLength a + i) (byteLength a + j) = slice b i j := by
  have hdrop : dropBytes (byteLength a + i) (a ++ b) = dropBytes i b := by
    induction a with
    | nil => rw [byteLength, Nat.zero_add, List.nil_append]
    | cons c a ih =>
      have hc := c.utf8Size_pos
      obtain ⟨n, hn⟩ : ∃ n, byteLength (c :: a) + i = n + 1 :=
        ⟨c.utf8Size + byteLength a + i - 1, by rw [byteLength]; omega⟩
      rw [hn, List.cons_append, dropBytes, ← hn, byteLength, Nat.add_assoc, Nat.add_sub_cancel_left,
        ih]
  unfold slice
  rw [hdrop, Nat.add_sub_add_left]

/-- A place in the first of two texts. -/
theorem Spells.append_right {a text : List Char} {start stop : Nat} (h : Spells a start stop text)
    (b : List Char) : Spells (a ++ b) start stop text := by
  obtain ⟨lead, rest, rfl, hstart, hstop⟩ := h
  exact ⟨lead, rest ++ b, by rw [List.append_assoc (lead ++ text)], hstart, hstop⟩

end Text

theorem outcome_map (f : α → β) (m : ExceptT ε (StateM σ) α) (s : σ) :
    outcome (f <$> m) s = ((outcome m s).1.map f, (outcome m s).2) := by
  rw [map_eq_pure_bind, outcome_bind]
  cases h : outcome m s with
  | mk r s' => cases r <;> rfl

/-- The same capture, of content `n` bytes further on. -/
def Capture.shifted (n : Nat) (c : Capture σ) : Capture σ := { c with start := n + c.start }

namespace RuleTable

theorem steps_append (table : RuleTable σ) (page : List Char) (capture : Option (Capture σ))
    (ts us : List Located) :
    table.steps page capture (ts ++ us) =
      (table.steps page capture ts >>= fun capture => table.steps page capture us) := by
  induction ts generalizing capture with
  | nil => rw [steps, pure_bind, List.nil_append]
  | cons t ts ih => simp only [List.cons_append, steps, bind_assoc, ih]

/-- A capture that is in progress behind a token begins there, or it has been there before and goes
on with the depth that the token leaves. -/
theorem capture_of_step {table : RuleTable σ} {page : List Char} {capture : Option (Capture σ)}
    {t : Located} {s s' : σ} {c : Capture σ}
    (h : outcome (table.step page capture t) s = (.ok (some c), s')) :
    (c.depth = 1 ∧ c.start = t.stop) ∨
      ∃ old, capture = some old ∧ old.depthAfter t.token ≠ 0 ∧
        c = { old with depth := old.depthAfter t.token } := by
  cases capture with
  | some old =>
    rw [step_capture] at h
    split at h
    · rw [outcome_bind] at h
      split at h <;> cases h
    · rename_i hopen
      obtain ⟨hr, -⟩ := Prod.mk.inj h
      exact .inr ⟨old, rfl, hopen, (Option.some.inj (Except.ok.inj hr)).symm⟩
  | none =>
    left
    unfold step at h
    dsimp only at h
    split at h
    · unfold answer at h
      split at h
      · cases h
      · rw [outcome_bind] at h
        split at h
        · split at h
          · split at h
            · rw [outcome_bind] at h
              split at h <;> cases h
            · cases h
              exact ⟨rfl, rfl⟩
          · cases h
        · cases h
    · cases h

/-- A step, on a page that has the same content `n` bytes further on. -/
theorem step_shifted {table : RuleTable σ} {page page' : List Char} {n : Nat}
    {capture : Option (Capture σ)} {t : Located}
    (hc : ∀ c, capture = some c →
      slice page' (n + c.start) (n + t.start) = slice page c.start t.start) :
    table.step page' (capture.map (Capture.shifted n)) (t.shifted n) =
      Option.map (Capture.shifted n) <$> table.step page capture t := by
  cases capture with
  | some c =>
    rw [Option.map_some, step_capture, step_capture]
    show (if c.depthAfter t.token = 0 then do
        c.rule.takeContent c.tag c.attributes (slice page' (n + c.start) (n + t.start))
        pure none
      else pure (some { c.shifted n with depth := c.depthAfter t.token })) = _
    rw [hc c rfl]
    split
    · rw [map_bind, map_pure]
      rfl
    · rw [map_pure]
      rfl
  | none =>
    unfold step
    dsimp only [Option.map_none, Located.shifted]
    split
    · unfold answer
      split
      · rw [map_pure]
        rfl
      · rw [map_bind]
        congr 1
        funext wanted
        split
        · split
          · rw [map_bind, map_pure]
            rfl
          · rw [map_pure]
            rfl
        · rw [map_pure]
          rfl
    · rw [map_pure]
      rfl

theorem steps_shifted (table : RuleTable σ) (page page' : List Char) (n : Nat)
    (capture : Option (Capture σ)) {ts : List Located}
    (hts : ts.Pairwise fun u t =>
      slice page' (n + u.stop) (n + t.start) = slice page u.stop t.start)
    (hc : ∀ c, capture = some c → ∀ t ∈ ts,
      slice page' (n + c.start) (n + t.start) = slice page c.start t.start) (s : σ) :
    outcome (table.steps page' (capture.map (Capture.shifted n)) (ts.map (Located.shifted n))) s =
      outcome (Option.map (Capture.shifted n) <$> table.steps page capture ts) s := by
  induction ts generalizing capture s with
  | nil => rfl
  | cons t ts ih =>
    obtain ⟨ht, hts⟩ := List.pairwise_cons.mp hts
    rw [List.map_cons, steps, steps, step_shifted fun c h => hc c h t List.mem_cons_self, map_bind,
      bind_map_left, outcome_bind, outcome_bind]
    cases h : outcome (table.step page capture t) s with
    | mk result s' =>
      cases result with
      | error failure => rfl
      | ok capture' =>
        refine ih capture' hts (fun c hc' u hu => ?_) s'
        subst hc'
        rcases capture_of_step h with ⟨-, hstart⟩ | ⟨old, hcapture, -, rfl⟩
        · rw [hstart]
          exact ht u hu
        · exact hc old hcapture u (List.mem_cons_of_mem t hu)

theorem finish_shifted (table : RuleTable σ) (a b : List Char) (capture : Option (Capture σ)) :
    table.finish (a ++ b) (capture.map (Capture.shifted (byteLength a))) =
      table.finish b capture := by
  cases capture with
  | none => rfl
  | some c =>
    unfold finish
    dsimp only [Option.map_some, Capture.shifted]
    rw [byteLength_append, slice_append_left]

/-- The second piece is read as a page of its own. -/
theorem readFrom_shifted (table : RuleTable σ) (a b : List Char) (ts : List Located) (s : σ) :
    outcome (table.readFrom (a ++ b) none (ts.map (Located.shifted (byteLength a)))) s =
      outcome (table.readFrom b none ts) s := by
  have hpairs : ts.Pairwise fun u t =>
      slice (a ++ b) (byteLength a + u.stop) (byteLength a + t.start) = slice b u.stop t.start :=
    List.pairwise_iff_forall_sublist.mpr fun _ => slice_append_left a b _ _
  have hsteps :=
    steps_shifted table b (a ++ b) (byteLength a) none hpairs (fun c hn => nomatch hn) s
  rw [Option.map_none] at hsteps
  rw [readFrom, readFrom, outcome_bind, hsteps, outcome_map, outcome_bind]
  cases h : outcome (table.steps b none ts) s with
  | mk result s' =>
    cases result with
    | error failure => rfl
    | ok capture => exact congrArg (outcome · s') (finish_shifted table a b capture)

/-- The first piece is read as a page of its own, up to its last token. -/
theorem steps_tokens_append (table : RuleTable σ) (a b : List Char) (s : σ) :
    outcome (table.steps (a ++ b) none (tokens table.options a)) s =
      outcome (table.steps a none (tokens table.options a)) s := by
  have hzero : Located.shifted 0 = id := by
    funext t
    simp [Located.shifted]
  have hzero' : (Capture.shifted 0 : Capture σ → Capture σ) = id := by
    funext c
    simp [Capture.shifted]
  have hpairs : (tokens table.options a).Pairwise fun u t =>
      slice (a ++ b) (0 + u.stop) (0 + t.start) = slice a u.stop t.start := by
    have hordered : (tokens table.options a).Pairwise fun u t => u.stop ≤ t.start :=
      located_pairwise [] (lexemes table.options a)
    refine hordered.imp_of_mem fun {u t} hu ht hle => ?_
    obtain ⟨l, -, -, hspells⟩ := spells_of_mem_tokens hu
    obtain ⟨k, -, -, hspells'⟩ := spells_of_mem_tokens ht
    obtain ⟨middle, hmiddle⟩ := hspells.between hspells' hle
    rw [Nat.zero_add, Nat.zero_add, hmiddle.slice_eq, (hmiddle.append_right b).slice_eq]
  have hsteps := steps_shifted table a (a ++ b) 0 none hpairs (fun c hn => nomatch hn) s
  rw [hzero, hzero', List.map_id, Option.map_id, id_map] at hsteps
  exact hsteps

end RuleTable

/-- **A page that is cut behind a token is read as its two pieces are**, one after the other. The
token is not the tag of a raw-text element. Then the tokens are those of the first piece and,
further on, those of the second; and where no capture is in progress behind the token, the second
piece is read from the state that the first one leaves, unless reading that one failed. -/
theorem runOn_append (table : RuleTable σ) (a b : String) {earlier later : List Located}
    {t : Located}
    (h : tokens table.options (a ++ b).toList = earlier ++ t :: later)
    (hstop : t.stop = a.utf8ByteSize) (hraw : t.token.opensRawText table.options = false) :
    tokens table.options (a ++ b).toList =
      tokens table.options a.toList ++
        (tokens table.options b.toList).map (Located.shifted a.utf8ByteSize) ∧
    ∀ s, (∀ c s', outcome (table.steps (a ++ b).toList none (earlier ++ [t])) s ≠
        (.ok (some c), s')) →
      table.runOn (a ++ b) s =
        match table.runOn a s with
        | (.ok (), s') => table.runOn b s'
        | (.error failure, s') => (.error failure, s') := by
  rw [← byteLength_toList] at hstop ⊢
  rw [String.toList_append] at h ⊢
  obtain ⟨htokens, hcut⟩ := tokens_cut h hstop hraw
  refine ⟨hcut, fun s hopen => ?_⟩
  rw [← htokens, RuleTable.steps_tokens_append] at hopen
  show outcome (table.readFrom (a ++ b).toList none (tokens table.options (a ++ b).toList)) s =
    match outcome (table.readFrom a.toList none (tokens table.options a.toList)) s with
    | (.ok (), s') => outcome (table.readFrom b.toList none (tokens table.options b.toList)) s'
    | (.error failure, s') => (.error failure, s')
  rw [String.toList_append, hcut, RuleTable.readFrom, RuleTable.steps_append, bind_assoc,
    outcome_bind, RuleTable.steps_tokens_append, RuleTable.readFrom, outcome_bind]
  cases hfirst : outcome (table.steps a.toList none (tokens table.options a.toList)) s with
  | mk result s' =>
    cases result with
    | error failure => rfl
    | ok capture =>
      cases capture with
      | some c => exact absurd hfirst (hopen c s')
      | none => exact RuleTable.readFrom_shifted table a.toList b.toList _ s'

/-- The contents of two elements are collected one after the other. -/
theorem elements_in_two_pieces :
    let table : RuleTable (List String) :=
      ⟨[{ pattern := .name "b", onContent := some fun content => modify (· ++ [content]) }], {}⟩
    ∀ earlier, table.runOn ("<b>1</b>" ++ "<b>2</b>") earlier =
      table.runOn "<b>2</b>" (earlier ++ ["1"]) := by
  intro table earlier
  have htokens : tokens table.options "<b>1</b>".toList =
      [⟨.openTag "b" .empty false, 0, 3⟩, ⟨.text "1", 3, 4⟩, ⟨.closeTag "b", 4, 8⟩] := by
    decide +kernel
  have hfirst : table.runOn "<b>1</b>" earlier = (.ok (), earlier ++ ["1"]) := by
    unfold RuleTable.runOn RuleTable.run
    rw [htokens]
    rfl
  have hcut : tokens table.options ("<b>1</b>" ++ "<b>2</b>").toList =
      [⟨.openTag "b" .empty false, 0, 3⟩, ⟨.text "1", 3, 4⟩] ++ ⟨.closeTag "b", 4, 8⟩ ::
        [⟨.openTag "b" .empty false, 8, 11⟩, ⟨.text "2", 11, 12⟩, ⟨.closeTag "b", 12, 16⟩] := by
    decide +kernel
  have hpieces := (runOn_append table "<b>1</b>" "<b>2</b>" hcut (by decide +kernel) rfl).2 earlier
  rw [hfirst] at hpieces
  refine hpieces fun c s' hopen => ?_
  have hclosed : outcome (table.steps ("<b>1</b>" ++ "<b>2</b>").toList none
      [⟨.openTag "b" .empty false, 0, 3⟩, ⟨.text "1", 3, 4⟩, ⟨.closeTag "b", 4, 8⟩]) earlier =
      (.ok none, earlier ++ ["1"]) := rfl
  cases hclosed.symm.trans hopen

end Imageboard
