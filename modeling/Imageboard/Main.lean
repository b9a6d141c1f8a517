import Imageboard.CommandLine.Answer

/-! The command: reads a page from a file or from standard input and prints its threads or
posts. -/
namespace Imageboard.CommandLine

def readFile (path : String) : IO File :=
  try
    let bytes ← IO.FS.readBinFile path
    pure (.content bytes.toList)
  catch
    | .noFileOrDirectory .. => pure (.unopened Failure.noSuchFile)
    | .inappropriateType _ 20 _ => pure (.unopened Failure.notDirectory)
    | .inappropriateType .. => pure .directory
    | e => pure (.unopened (toString e))

/-- The files that an invocation names, each read once. -/
def namedFiles (i : Invocation) : IO (String → File) := do
  let paths := i.input.toList ++ i.boardsJson.toList
  let files ← paths.mapM fun path => do return (path, ← readFile path)
  return fun path => (files.lookup path).getD (.unopened Failure.noSuchFile)

def standardInput (i : Invocation) : IO (List UInt8) := do
  if i.input.isSome then return []
  let stdin ← IO.getStdin
  return (← stdin.readBinToEnd).toList

def run (arguments : List String) : IO UInt32 := do
  match Invocation.ofArguments? arguments with
  | none =>
    IO.eprintln "chanscrape: invalid arguments"
    return 2
  | some i =>
    match i.answer (← namedFiles i) (← standardInput i) with
    | .ok text =>
      IO.println text
      return 0
    | .error failure =>
      IO.eprintln ("chanscrape: " ++ failure.message)
      return 1

end Imageboard.CommandLine

def main (arguments : List String) : IO UInt32 := Imageboard.CommandLine.run arguments
