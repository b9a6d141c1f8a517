import Imageboard.Address.PercentEncoding
import Imageboard.CommandLine.Arguments
import Imageboard.Json.Parser
import Imageboard.Json.Printer

/-! What the command answers: the threads or posts of a page as JSON, or why there are none. -/
namespace Imageboard.CommandLine

/-- What a path leads to. -/
inductive File where
  /-- Nothing that can be opened. -/
  | unopened (reason : String)
  | directory
  | content (bytes : List UInt8)

inductive Failure where
  | locator (cause : LocatorError)
  | file (path reason : String)
  | page (cause : ReadError)

namespace Failure

def noSuchFile : String := "No such file or directory (os error 2)"

def notDirectory : String := "Not a directory (os error 20)"

def isDirectory : String := "Is a directory (os error 21)"

def message : Failure → String
  | locator cause => cause.message
  | file path reason => path ++ ": " ++ reason
  | page cause => cause.message

end Failure

namespace Invocation

/-- The JSON document that bytes write in UTF-8. -/
def document? (bytes : List UInt8) : Option Json :=
  (Address.utf8? bytes).bind fun text => Json.parse? (String.ofList text)

/-- What is known of the boards before the page is read. -/
def configuration (i : Invocation) (file : String → File) : Except Failure Configuration :=
  match i.boardsJson with
  | none => .ok {}
  | some path =>
    match file path with
    | .unopened reason => .error (.file path reason)
    | .directory => .error (.file path Failure.isDirectory)
    | .content bytes =>
      match document? bytes with
      | some document => .ok (Configuration.update {} document)
      | none => .error (.file path "invalid JSON")

def source (i : Invocation) (file : String → File) (standardInput : List UInt8) :
    Except Failure Source :=
  match i.input with
  | none => .ok (.bytes standardInput)
  | some path =>
    match file path with
    | .unopened reason => .error (.file path reason)
    | .directory => .ok (.broken Failure.isDirectory)
    | .content bytes => .ok (.bytes bytes)

def modeName : Mode → String
  | .threads => "threads"
  | .posts => "posts"

def answerJson (i : Invocation) (collector : Collector) (configuration : Configuration) : Json :=
  .object
    ([("site", i.site.toJson), ("board", .string i.board),
      (modeName i.mode, collector.toJson i.mode)] ++
     if i.showConfig then [("config", configuration.toJson)] else [])

/-- The answer of the command, without the newline after it. -/
def answer (i : Invocation) (file : String → File) (standardInput : List UInt8) :
    Except Failure String := do
  let locator ← (Locator.ofText i.baseUrl).mapError .locator
  let known ← i.configuration file
  let source ← i.source file standardInput
  let (outcome, configuration) := i.site.readPage locator i.board i.mode source known
  let collector ← outcome.mapError .page
  let json := i.answerJson collector configuration
  pure (if i.pretty then json.pretty else json.compact)

end Invocation

end Imageboard.CommandLine
