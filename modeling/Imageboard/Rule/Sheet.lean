import Imageboard.Rule.Table

/-! Sheets of rules, written as patterns followed by the handlers they share.

Patterns that stand together form a group, and the handlers after them belong to the whole
group; the next pattern begins another. A sheet is sound when every group has a handler and
none has two of a kind; `build` makes a table of a sound sheet and names all the problems of
any other. -/
namespace Imageboard

/-- An entry of a sheet. -/
inductive Entry (σ : Type) where
  | pattern (p : TagPattern)
  | onOpen (handler : OpenHandler σ)
  | onContent (handler : ContentHandler σ)

namespace Entry
open Text

/-! Patterns on a sheet may write the names of tags and attributes in any case. -/

def name (tag : String) : Entry σ := .pattern (.name (lowercased tag))

def equals (tag key value : String) : Entry σ :=
  .pattern (.equals (lowercased tag) (lowercased key) value)

def startsWith (tag key lead : String) : Entry σ :=
  .pattern (.startsWith (lowercased tag) (lowercased key) lead)

def contains (tag key part : String) : Entry σ :=
  .pattern (.contains (lowercased tag) (lowercased key) part)

def endsWith (tag key tail : String) : Entry σ :=
  .pattern (.endsWith (lowercased tag) (lowercased key) tail)

/-! Handlers that never fail. -/

/-- At the tag the state changes; the content is left to other rules. -/
def atTag (change : Attributes → σ → σ) : Entry σ :=
  .onOpen fun _ attributes => do
    modify (change attributes)
    return false

/-- At the tag the state changes, and it is told whether the content is wanted. -/
def askAtTag (change : Attributes → σ → Bool × σ) : Entry σ :=
  .onOpen fun _ attributes => modifyGet (change attributes)

def atContent (change : String → σ → σ) : Entry σ :=
  .onContent fun content => modify (change content)

end Entry

/-- What is wrong with a sheet. -/
inductive Problem where
  | openBeforePattern
  | contentBeforePattern
  | secondOpen (p : TagPattern)
  | secondContent (p : TagPattern)
  | noHandler (p : TagPattern)
  deriving DecidableEq

namespace Problem

def message : Problem → String
  | openBeforePattern => "open handler attached before any pattern"
  | contentBeforePattern => "content handler attached before any pattern"
  | secondOpen p => p.selector ++ " has more than one open handler"
  | secondContent p => p.selector ++ " has more than one content handler"
  | noHandler p => p.selector ++ " has no handler"

/-- The problems of a sheet in one line. -/
def summary (problems : List Problem) : String :=
  "invalid rule table: " ++ String.intercalate "; " (problems.map message)

end Problem

/-- A sheet read so far. -/
structure Draft (σ : Type) where
  /-- Rules of the groups that are complete. -/
  complete : List (Rule σ) := []
  /-- Rules of the last group. -/
  group : List (Rule σ) := []
  /-- Whether a handler has followed the last group. -/
  handled : Bool := false
  problems : List Problem := []

namespace Draft

def addPattern (d : Draft σ) (p : TagPattern) : Draft σ :=
  if d.handled then
    { d with complete := d.complete ++ d.group, group := [{ pattern := p }], handled := false }
  else { d with group := d.group ++ [{ pattern := p }] }

def addOpen (d : Draft σ) (handler : OpenHandler σ) : Draft σ :=
  let problems :=
    if d.group.isEmpty then [Problem.openBeforePattern]
    else (d.group.filter (·.onOpen.isSome)).map (.secondOpen ·.pattern)
  { d with
    group := d.group.map fun rule => { rule with onOpen := some handler }
    handled := true
    problems := d.problems ++ problems }

def addContent (d : Draft σ) (handler : ContentHandler σ) : Draft σ :=
  let problems :=
    if d.group.isEmpty then [Problem.contentBeforePattern]
    else (d.group.filter (·.onContent.isSome)).map (.secondContent ·.pattern)
  { d with
    group := d.group.map fun rule => { rule with onContent := some handler }
    handled := true
    problems := d.problems ++ problems }

def add (d : Draft σ) : Entry σ → Draft σ
  | .pattern p => d.addPattern p
  | .onOpen handler => d.addOpen handler
  | .onContent handler => d.addContent handler

def rules (d : Draft σ) : List (Rule σ) := d.complete ++ d.group

/-- All problems, those of rules without a handler last. -/
def allProblems (d : Draft σ) : List Problem :=
  d.problems ++
    (d.rules.filter fun rule => rule.onOpen.isNone && rule.onContent.isNone).map (.noHandler ·.pattern)

end Draft

namespace RuleTable

def build (options : Options) (sheet : List (Entry σ)) : Except (List Problem) (RuleTable σ) :=
  let draft := sheet.foldl Draft.add {}
  if draft.allProblems.isEmpty then .ok ⟨draft.rules, options⟩ else .error draft.allProblems

end RuleTable

end Imageboard
