import Imageboard.Markup.Lexeme
import Imageboard.Rule.Table

/-! Running a table over a page.

Each tag is answered by the first rule that matches it. Where the rule asks for the content of
the element, what follows is captured up to the end tag that closes the element, tags inside
are answered by no rule, and the content handler gets the page between the two tags as it is
written. Elements without content get an empty text. -/
namespace Imageboard

/-- A run over a page: handlers change the state, and the first that fails ends it. -/
abbrev Run (σ α : Type) := ExceptT HandlerFailure (StateM σ) α

/-- A capture in progress. -/
structure Capture (σ : Type) where
  rule : Rule σ
  tag : String
  attributes : Attributes
  /-- Elements of this name that are open, the captured one included. -/
  depth : Nat
  /-- Where the content starts. -/
  start : Nat

namespace Capture

/-- How many elements of the captured name are open after a token. -/
def depthAfter (c : Capture σ) : Token → Nat
  | .openTag name _ selfClosing => if name = c.tag ∧ ¬selfClosing then c.depth + 1 else c.depth
  | .closeTag name => if name = c.tag then c.depth - 1 else c.depth
  | .text _ => c.depth

end Capture

namespace Rule

/-- Calls a handler on behalf of a tag. -/
def callFor (tag : String) (attributes : Attributes) (handler : Handler σ α) : Run σ α :=
  ExceptT.adapt (HandlerFailure.mk tag attributes) handler

/-- Whether the rule wants the content of the element that a tag opens. -/
def wantsContent (rule : Rule σ) (tag : String) (attributes : Attributes) : Run σ Bool := do
  let wanted ←
    match rule.onOpen with
    | some handler => callFor tag attributes (handler tag attributes)
    | none => pure true
  pure (wanted && rule.onContent.isSome)

def takeContent (rule : Rule σ) (tag : String) (attributes : Attributes) (content : List Char) :
    Run σ Unit :=
  match rule.onContent with
  | some handler => callFor tag attributes (handler (String.ofList content))
  | none => pure ()

end Rule

namespace RuleTable

/-- Answers a tag outside any capture. -/
def answer (table : RuleTable σ) (tag : String) (attributes : Attributes) (selfClosing : Bool)
    (stop : Nat) : Run σ (Option (Capture σ)) :=
  match table.find? tag attributes with
  | none => pure none
  | some rule => do
    if ← rule.wantsContent tag attributes then
      if selfClosing || isVoidElement tag then
        rule.takeContent tag attributes []
        pure none
      else pure (some ⟨rule, tag, attributes, 1, stop⟩)
    else pure none

def step (table : RuleTable σ) (page : List Char) (capture : Option (Capture σ)) (t : Located) :
    Run σ (Option (Capture σ)) :=
  match capture with
  | some c =>
    if c.depthAfter t.token = 0 then do
      c.rule.takeContent c.tag c.attributes (Text.slice page c.start t.start)
      pure none
    else pure (some { c with depth := c.depthAfter t.token })
  | none =>
    match t.token with
    | .openTag tag attributes selfClosing => table.answer tag attributes selfClosing t.stop
    | _ => pure none

def steps (table : RuleTable σ) (page : List Char) :
    Option (Capture σ) → List Located → Run σ (Option (Capture σ))
  | capture, [] => pure capture
  | capture, t :: rest => do table.steps page (← table.step page capture t) rest

/-- What is left to do when the page ends. -/
def finish (table : RuleTable σ) (page : List Char) : Option (Capture σ) → Run σ Unit
  | some c =>
    if table.options.flushOpenCapture then
      c.rule.takeContent c.tag c.attributes (Text.slice page c.start (Text.byteLength page))
    else pure ()
  | none => pure ()

def run (table : RuleTable σ) (page : List Char) : Run σ Unit := do
  table.finish page (← table.steps page none (tokens table.options page))

/-- What a page makes of a state: the outcome, and the state in either case. -/
def runOn (table : RuleTable σ) (page : String) (state : σ) : Except HandlerFailure Unit × σ :=
  (table.run page.toList).run.run state

end RuleTable

end Imageboard
