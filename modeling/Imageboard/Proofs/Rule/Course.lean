import Imageboard.Proofs.Rule.Outcome

/-! The course of a table over a page, told by the tags that its rules answer.

A tag outside all content goes to the first rule that matches it. Where the rule wants the content
of the element, that is the page between the tag and the first token up to which the end tags of
the element outnumber its tags by one, and the course goes on behind that token. Nothing here
counts depth or keeps a capture: `closing?` looks for the end tag among all the tokens that follow.

That running a table over a page comes to its course is `readFrom_eq_course`, in the next
module. -/
namespace Imageboard

/-! ### The content of an element -/

/-- Whether a token is a tag that leaves the element `name` open. -/
def opens (name : String) (t : Located) : Bool :=
  match t.token with
  | .openTag tag _ selfClosing => tag == name && !selfClosing
  | _ => false

/-- Whether a token is an end tag of the element `name`. -/
def closes (name : String) (t : Located) : Bool :=
  match t.token with
  | .closeTag tag => tag == name
  | _ => false

/-- The first token up to which the end tags of `name` outnumber its tags by `excess`, and the
tokens behind it. -/
def closing? (name : String) (excess : Nat) (ts : List Located) :
    Option (Located × List Located) :=
  ((List.range ts.length).find? fun j =>
    (ts.take (j + 1)).countP (closes name) == (ts.take (j + 1)).countP (opens name) + excess).bind
      fun j => ts[j]?.map fun t => (t, ts.drop (j + 1))

/-- The content of an element whose tag stops at byte `stop` and is followed by `ts`, and the
tokens behind the element. An element that the page leaves open has the rest of the page for its
content, or none, as the options say. -/
def contentOf (o : Options) (page : List Char) (tag : String) (selfClosing : Bool) (stop : Nat)
    (ts : List Located) : Option String × List Located :=
  if selfClosing || isVoidElement tag then (some "", ts)
  else
    match closing? tag 1 ts with
    | some (t, rest) => (some (String.ofList (Text.slice page stop t.start)), rest)
    | none =>
      if o.flushOpenCapture then
        (some (String.ofList (Text.slice page stop (Text.byteLength page))), [])
      else (none, [])

theorem closing?_isSuffix {name : String} {excess : Nat} {ts rest : List Located} {t : Located}
    (h : closing? name excess ts = some (t, rest)) : rest <:+ ts := by
  obtain ⟨j, -, hj⟩ := Option.bind_eq_some_iff.mp h
  obtain ⟨u, -, he⟩ := Option.map_eq_some_iff.mp hj
  rw [← (Prod.mk.inj he).2]
  exact List.drop_suffix (j + 1) ts

theorem contentOf_isSuffix (o : Options) (page : List Char) (tag : String) (selfClosing : Bool)
    (stop : Nat) (ts : List Located) : (contentOf o page tag selfClosing stop ts).2 <:+ ts := by
  unfold contentOf
  split
  · exact List.suffix_refl ts
  · split
    · rename_i t rest h
      exact closing?_isSuffix h
    · split <;> exact List.nil_suffix

/-! ### Visits -/

/-- A tag that a rule answers. -/
structure Visit where
  /-- The place of the rule in the table. -/
  rule : Nat
  tag : String
  attributes : Attributes
  /-- What the content handler of the rule is given, where it is called. -/
  content : Option String
  deriving DecidableEq

/-- What a rule says to a tag. A rule without an open handler wants the content. -/
def Rule.asked (rule : Rule σ) (tag : String) (attributes : Attributes) (s : σ) :
    Except HandlerError Bool × σ :=
  match rule.onOpen with
  | some handler => outcome (handler tag attributes) s
  | none => (.ok true, s)

/-- How the rule at place `i` answers a tag that stops at byte `stop` and is followed by `ts`:
the visit, and the tokens behind it unless a handler fails. -/
def Rule.visit (rule : Rule σ) (i : Nat) (o : Options) (page : List Char) (tag : String)
    (attributes : Attributes) (selfClosing : Bool) (stop : Nat) (ts : List Located) (s : σ) :
    Visit × Except HandlerFailure (List Located) × σ :=
  match rule.asked tag attributes s, rule.onContent with
  | (.error cause, s'), _ => (⟨i, tag, attributes, none⟩, .error ⟨tag, attributes, cause⟩, s')
  | (.ok true, s'), some handler =>
    match contentOf o page tag selfClosing stop ts with
    | (none, rest) => (⟨i, tag, attributes, none⟩, .ok rest, s')
    | (some content, rest) =>
      match outcome (handler content) s' with
      | (.error cause, s'') =>
        (⟨i, tag, attributes, some content⟩, .error ⟨tag, attributes, cause⟩, s'')
      | (.ok (), s'') => (⟨i, tag, attributes, some content⟩, .ok rest, s'')
  | (.ok _, s'), _ => (⟨i, tag, attributes, none⟩, .ok ts, s')

namespace Rule
variable {rule : Rule σ} {i : Nat} {o : Options} {page : List Char} {tag : String}
  {attributes : Attributes} {selfClosing : Bool} {stop : Nat} {ts rest : List Located} {s s' s'' : σ}

theorem visit_failed {cause : HandlerError} (ha : rule.asked tag attributes s = (.error cause, s')) :
    rule.visit i o page tag attributes selfClosing stop ts s =
      (⟨i, tag, attributes, none⟩, .error ⟨tag, attributes, cause⟩, s') := by
  unfold visit
  rw [ha]

/-- The content is not wanted, or no handler takes it. -/
theorem visit_declined {wanted : Bool} (ha : rule.asked tag attributes s = (.ok wanted, s'))
    (hw : (wanted && rule.onContent.isSome) = false) :
    rule.visit i o page tag attributes selfClosing stop ts s =
      (⟨i, tag, attributes, none⟩, .ok ts, s') := by
  unfold visit
  rw [ha]
  match wanted, hc : rule.onContent with
  | false, _ => rfl
  | true, none => rfl
  | true, some handler => simp [hc] at hw

/-- The page leaves the element open, and the options leave its content out. -/
theorem visit_open {handler : ContentHandler σ}
    (ha : rule.asked tag attributes s = (.ok true, s')) (hc : rule.onContent = some handler)
    (hn : contentOf o page tag selfClosing stop ts = (none, rest)) :
    rule.visit i o page tag attributes selfClosing stop ts s =
      (⟨i, tag, attributes, none⟩, .ok rest, s') := by
  unfold visit
  rw [ha, hc]
  dsimp only
  rw [hn]

theorem visit_content {handler : ContentHandler σ} {content : String}
    {result : Except HandlerError Unit} (ha : rule.asked tag attributes s = (.ok true, s'))
    (hc : rule.onContent = some handler)
    (hn : contentOf o page tag selfClosing stop ts = (some content, rest))
    (ho : outcome (handler content) s' = (result, s'')) :
    rule.visit i o page tag attributes selfClosing stop ts s =
      (⟨i, tag, attributes, some content⟩,
        (result.mapError (HandlerFailure.mk tag attributes)).map (fun _ => rest), s'') := by
  unfold visit
  rw [ha, hc]
  dsimp only
  rw [hn]
  dsimp only
  rw [ho]
  cases result <;> rfl

/-- There are no other visits than these four. -/
theorem visit_cases (rule : Rule σ) (o : Options) (page : List Char) (tag : String)
    (attributes : Attributes) (selfClosing : Bool) (stop : Nat) (ts : List Located) (s : σ) :
    (∃ cause s', rule.asked tag attributes s = (.error cause, s')) ∨
    (∃ wanted s', rule.asked tag attributes s = (.ok wanted, s') ∧
      (wanted && rule.onContent.isSome) = false) ∨
    (∃ handler rest s', rule.asked tag attributes s = (.ok true, s') ∧
      rule.onContent = some handler ∧
      contentOf o page tag selfClosing stop ts = (none, rest)) ∨
    (∃ handler content rest s' result s'', rule.asked tag attributes s = (.ok true, s') ∧
      rule.onContent = some handler ∧
      contentOf o page tag selfClosing stop ts = (some content, rest) ∧
      outcome (handler content) s' = (result, s'')) := by
  match ha : rule.asked tag attributes s, hc : rule.onContent with
  | (.error cause, s'), _ => exact .inl ⟨cause, s', rfl⟩
  | (.ok false, s'), _ => exact .inr (.inl ⟨false, s', rfl, rfl⟩)
  | (.ok true, s'), none => exact .inr (.inl ⟨true, s', rfl, rfl⟩)
  | (.ok true, s'), some handler =>
    match hn : contentOf o page tag selfClosing stop ts with
    | (none, rest) => exact .inr (.inr (.inl ⟨handler, rest, s', rfl, rfl, rfl⟩))
    | (some content, rest) =>
      exact .inr (.inr (.inr ⟨handler, content, rest, s', _, _, rfl, rfl, rfl, rfl⟩))

/-- A visit is to the tag it answers. -/
theorem visit_tag {v : Visit} {result : Except HandlerFailure (List Located)}
    (h : rule.visit i o page tag attributes selfClosing stop ts s = (v, result, s')) :
    v.rule = i ∧ v.tag = tag ∧ v.attributes = attributes := by
  obtain ⟨_, _, ha⟩ | ⟨_, _, ha, hw⟩ | ⟨_, _, _, ha, hc, hn⟩ | ⟨_, _, _, _, _, _, ha, hc, hn, ho⟩ :=
    rule.visit_cases o page tag attributes selfClosing stop ts s
  · obtain ⟨rfl, -⟩ := Prod.mk.inj ((visit_failed ha).symm.trans h)
    exact ⟨rfl, rfl, rfl⟩
  · obtain ⟨rfl, -⟩ := Prod.mk.inj ((visit_declined ha hw).symm.trans h)
    exact ⟨rfl, rfl, rfl⟩
  · obtain ⟨rfl, -⟩ := Prod.mk.inj ((visit_open ha hc hn).symm.trans h)
    exact ⟨rfl, rfl, rfl⟩
  · obtain ⟨rfl, -⟩ := Prod.mk.inj ((visit_content ha hc hn ho).symm.trans h)
    exact ⟨rfl, rfl, rfl⟩

/-- A visit goes on behind the tag, or behind the content that is taken. -/
theorem visit_rest {v : Visit}
    (h : rule.visit i o page tag attributes selfClosing stop ts s = (v, .ok rest, s')) :
    rest = ts ∨ rest = (contentOf o page tag selfClosing stop ts).2 := by
  obtain ⟨_, _, ha⟩ | ⟨_, _, ha, hw⟩ | ⟨_, _, _, ha, hc, hn⟩ | ⟨_, _, _, _, result, _, ha, hc, hn, ho⟩ :=
    rule.visit_cases o page tag attributes selfClosing stop ts s
  · cases (visit_failed ha).symm.trans h
  · cases (visit_declined ha hw).symm.trans h
    exact .inl rfl
  · cases (visit_open ha hc hn).symm.trans h
    rw [hn]
    exact .inr rfl
  · have hv := (visit_content ha hc hn ho).symm.trans h
    cases result with
    | error cause => cases hv
    | ok =>
      cases hv
      rw [hn]
      exact .inr rfl

theorem visit_isSuffix {v : Visit}
    (h : rule.visit i o page tag attributes selfClosing stop ts s = (v, .ok rest, s')) :
    rest <:+ ts := by
  rcases visit_rest h with rfl | rfl
  · exact List.suffix_refl rest
  · exact contentOf_isSuffix o page tag selfClosing stop ts

/-- The content of a visit is that of the element which the tag begins. -/
theorem visit_content_eq {v : Visit} {result : Except HandlerFailure (List Located)}
    (h : rule.visit i o page tag attributes selfClosing stop ts s = (v, result, s'))
    {content : String} (hv : v.content = some content) :
    (contentOf o page tag selfClosing stop ts).1 = some content := by
  obtain ⟨_, _, ha⟩ | ⟨_, _, ha, hw⟩ | ⟨_, _, _, ha, hc, hn⟩ | ⟨_, _, _, _, _, _, ha, hc, hn, ho⟩ :=
    rule.visit_cases o page tag attributes selfClosing stop ts s
  · cases (visit_failed ha).symm.trans h
    cases hv
  · cases (visit_declined ha hw).symm.trans h
    cases hv
  · cases (visit_open ha hc hn).symm.trans h
    cases hv
  · obtain ⟨rfl, -⟩ := Prod.mk.inj ((visit_content ha hc hn ho).symm.trans h)
    rw [hn]
    exact hv

end Rule

/-! ### Courses -/

/-- What reading a page comes to: the tags that were answered in the order of the page, and the
state and the result at the end. -/
structure Course (σ : Type) where
  visits : List Visit
  result : Except HandlerFailure Unit
  state : σ

namespace RuleTable

/-- The first rule of a table that matches a tag, with its place. -/
def firstRule? (table : RuleTable σ) (tag : String) (attributes : Attributes) :
    Option (Nat × Rule σ) :=
  (table.findIndex? tag attributes).bind fun i => table.rules[i]?.map fun rule => (i, rule)

theorem firstRule?_eq_some {table : RuleTable σ} {tag : String} {attributes : Attributes} {i : Nat}
    {rule : Rule σ} (h : table.firstRule? tag attributes = some (i, rule)) :
    table.rules[i]? = some rule ∧ rule.pattern.matchesTag tag attributes = true := by
  obtain ⟨j, hj, hr⟩ := Option.bind_eq_some_iff.mp h
  obtain ⟨r, hget?, he⟩ := Option.map_eq_some_iff.mp hr
  obtain ⟨rfl, rfl⟩ := Prod.mk.inj he
  obtain ⟨hlt, hget⟩ := List.getElem?_eq_some_iff.mp hget?
  refine ⟨hget?, ?_⟩
  have := (List.findIdx?_eq_some_iff_getElem.mp hj).2.1
  rwa [hget] at this

/-- The course over the tokens `ts` of a page, none of which is inside content. -/
def course (table : RuleTable σ) (page : List Char) (s : σ) : List Located → Course σ
  | [] => ⟨[], .ok (), s⟩
  | t :: ts =>
    match t.token with
    | .openTag tag attributes selfClosing =>
      match table.firstRule? tag attributes with
      | none => table.course page s ts
      | some (i, rule) =>
        match _h : rule.visit i table.options page tag attributes selfClosing t.stop ts s with
        | (v, .error failure, s') => ⟨[v], .error failure, s'⟩
        | (v, .ok rest, s') =>
          let course := table.course page s' rest
          { course with visits := v :: course.visits }
    | _ => table.course page s ts
termination_by ts => ts.length
decreasing_by
  all_goals simp only [List.length_cons]
  all_goals first
    | omega
    | exact Nat.lt_succ_of_le (Rule.visit_isSuffix _h).length_le

@[simp] theorem course_nil (table : RuleTable σ) (page : List Char) (s : σ) :
    table.course page s [] = ⟨[], .ok (), s⟩ := by
  rw [course]

theorem course_skip {t : Located}
    (ht : ∀ tag attributes selfClosing, t.token ≠ .openTag tag attributes selfClosing)
    (table : RuleTable σ) (page : List Char) (s : σ) (ts : List Located) :
    table.course page s (t :: ts) = table.course page s ts := by
  rw [course]
  cases h : t.token with
  | openTag tag attributes selfClosing => exact absurd h (ht _ _ _)
  | closeTag name => rfl
  | text content => rfl

theorem course_unanswered {table : RuleTable σ} {t : Located} {tag : String}
    {attributes : Attributes} {selfClosing : Bool}
    (ht : t.token = .openTag tag attributes selfClosing)
    (hr : table.firstRule? tag attributes = none) (page : List Char) (s : σ) (ts : List Located) :
    table.course page s (t :: ts) = table.course page s ts := by
  rw [course]
  simp only [ht, hr]

theorem course_visit {table : RuleTable σ} {t : Located} {tag : String} {attributes : Attributes}
    {selfClosing : Bool} {i : Nat} {rule : Rule σ}
    (ht : t.token = .openTag tag attributes selfClosing)
    (hr : table.firstRule? tag attributes = some (i, rule)) (page : List Char) (s : σ)
    (ts : List Located) :
    table.course page s (t :: ts) =
      match rule.visit i table.options page tag attributes selfClosing t.stop ts s with
      | (v, .error failure, s') => ⟨[v], .error failure, s'⟩
      | (v, .ok rest, s') =>
        { table.course page s' rest with visits := v :: (table.course page s' rest).visits } := by
  rw [course]
  simp only [ht, hr]
  split
  · rename_i h; rw [h]
  · rename_i h; rw [h]

end RuleTable

end Imageboard
