import Imageboard.Charset.Page
import Imageboard.Rule.Run
import Imageboard.Rule.Sheet

/-! Where the markup of a page comes from, and what may go wrong with it. -/
namespace Imageboard

inductive Source where
  | text (markup : String)
  /-- Bytes in the charset that the page tells. -/
  | bytes (page : List UInt8)
  /-- A source that fails before its end. -/
  | broken (reason : String)

inductive ReadError where
  | brokenSource (reason : String)
  | failedHandler (failure : HandlerFailure)
  | invalidTable (problems : List Problem)
  deriving DecidableEq

def ReadError.message : ReadError → String
  | brokenSource reason => "malformed markup: " ++ reason
  | failedHandler failure => failure.message
  | invalidTable problems => Problem.summary problems

def Source.markup : Source → Except ReadError String
  | text markup => .ok markup
  | bytes page => .ok (String.ofList (pageText page))
  | broken reason => .error (.brokenSource reason)

/-- Runs a table over the page of a source. -/
def RuleTable.readSource (table : RuleTable σ) (source : Source) (state : σ) :
    Except ReadError Unit × σ :=
  match source.markup with
  | .error e => (.error e, state)
  | .ok markup =>
    let (outcome, state) := table.runOn markup state
    (outcome.mapError .failedHandler, state)

/-- Runs the table of a sheet over the page of a source. -/
def readWithSheet (sheet : List (Entry σ)) (source : Source) (state : σ) :
    Except ReadError Unit × σ :=
  match RuleTable.build {} sheet with
  | .error problems => (.error (.invalidTable problems), state)
  | .ok table => table.readSource source state

end Imageboard
