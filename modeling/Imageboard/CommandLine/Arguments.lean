import Imageboard.Site.Basic

/-! The arguments of the command.

An option is given once, its value in the next argument, after `=` or, for a letter, right
behind it. A value of its own does not begin with `-`, unless it is `-` alone. After `--` there
are only paths. -/
namespace Imageboard.CommandLine
open Text

/-- Options with a value. -/
inductive Setting where
  | site
  | mode
  | baseUrl
  | board
  | boardsJson
  | logLevel
  deriving DecidableEq

/-- Options without. -/
inductive Switch where
  | showConfig
  | pretty
  deriving DecidableEq

def longSettings : List (String × Setting) :=
  [("site", .site), ("mode", .mode), ("base-url", .baseUrl), ("board", .board),
   ("boards-json", .boardsJson), ("log-level", .logLevel)]

def longSwitches : List (String × Switch) := [("show-config", .showConfig), ("pretty", .pretty)]

def letters : List (Char × Setting) := [('s', .site), ('m', .mode), ('b', .board)]

/-- What an argument is when it is looked at alone. -/
inductive Form where
  | text (s : String)
  | setting (s : Setting) (value : Option String)
  | switch (s : Switch)
  /-- What `--` is. -/
  | divider
  | unknown
  deriving DecidableEq

/-- An option of the name, with the value that stands after `=`. -/
def longForm (name : String) (value : Option String) : Form :=
  match longSettings.lookup name, longSwitches.lookup name, value with
  | some setting, _, _ => .setting setting value
  | none, some switch, none => .switch switch
  | _, _, _ => .unknown

/-- The value that stands right behind a letter. -/
def attached : List Char → Option String
  | [] => none
  | '=' :: value => some (String.ofList value)
  | value => some (String.ofList value)

def form (argument : String) : Form :=
  match argument.toList with
  | ['-', '-'] => .divider
  | '-' :: '-' :: s =>
    let value := (splitFirst? ['='] s).map fun (_, value) => String.ofList value
    longForm (String.ofList (s.takeWhile (· != '='))) value
  | '-' :: letter :: s =>
    match letters.lookup letter with
    | some setting => .setting setting (attached s)
    | none => .unknown
  | _ => .text argument

/-- What the arguments give. -/
inductive Given where
  | setting (s : Setting) (value : String)
  | switch (s : Switch)
  | path (text : String)
  deriving DecidableEq

def given? : List String → Option (List Given)
  | [] => some []
  | argument :: rest =>
    match form argument with
    | .text path => (given? rest).map (.path path :: ·)
    | .switch switch => (given? rest).map (.switch switch :: ·)
    | .setting setting (some value) => (given? rest).map (.setting setting value :: ·)
    | .setting setting none =>
      match rest with
      | value :: rest =>
        if form value = .text value then (given? rest).map (.setting setting value :: ·) else none
      | [] => none
    | .divider => some (rest.map .path)
    | .unknown => none

/-! ### Invocations -/

structure Invocation where
  /-- The path of the page; without one the page is read from standard input. -/
  input : Option String
  site : Site
  mode : Mode
  /-- The address that links on the page start from. -/
  baseUrl : String
  board : String
  /-- The path of a document that describes boards. -/
  boardsJson : Option String
  showConfig : Bool
  pretty : Bool
  deriving DecidableEq

namespace Invocation

def values (given : List Given) (setting : Setting) : List String :=
  given.filterMap fun
    | .setting s value => if s = setting then some value else none
    | _ => none

def paths (given : List Given) : List String :=
  given.filterMap fun
    | .path text => some text
    | _ => none

/-- The value that is given at most once. -/
def atMostOne? : List α → Option (Option α)
  | [] => some none
  | [a] => some (some a)
  | _ => none

def mode? : String → Option Mode
  | "threads" => some .threads
  | "posts" => some .posts
  | _ => none

def nonempty? (path : String) : Option String := if path.isEmpty then none else some path

/-- Reads a value that is given at most once, and takes `default` where it is not. -/
def valueOr (default : α) (read : String → Option α) (values : List String) : Option α := do
  match ← atMostOne? values with
  | some value => read value
  | none => some default

def ofGiven? (given : List Given) : Option Invocation := do
  let input ← valueOr none (fun path => (nonempty? path).map some) (paths given)
  let site ← valueOr .wakaba Site.ofName? (values given .site)
  let mode ← valueOr .threads mode? (values given .mode)
  let baseUrl ← valueOr "http://localhost/" some (values given .baseUrl)
  let board ← valueOr "b" some (values given .board)
  let boardsJson ← valueOr none (fun path => (nonempty? path).map some) (values given .boardsJson)
  let _ ← atMostOne? (values given .logLevel)
  if 1 < given.count (.switch .showConfig) || 1 < given.count (.switch .pretty) then none
  else
    some {
      input, site, mode, baseUrl, board, boardsJson
      showConfig := given.contains (.switch .showConfig)
      pretty := given.contains (.switch .pretty) }

def ofArguments? (arguments : List String) : Option Invocation :=
  (given? arguments).bind ofGiven?

end Invocation

end Imageboard.CommandLine
