import Imageboard.Markup.Attributes
import Imageboard.Text.Quoted

/-! Handlers of rules, and how they fail.

A handler changes the state it is given, and what it changed before it failed stays
changed. -/
namespace Imageboard

inductive HandlerError where
  /-- A value that must be a number is none. -/
  | invalidNumber (field value : String)
  | missingAttribute (key : String)
  /-- Nothing is there for the handler to work on. -/
  | missingContext (what : String)
  | custom (message : String)
  deriving DecidableEq

def HandlerError.message : HandlerError → String
  | invalidNumber field value => "invalid number " ++ Text.quoted value ++ " for " ++ field
  | missingAttribute key => "missing attribute " ++ Text.quoted key
  | missingContext what => "no " ++ what ++ " in progress"
  | custom message => message

abbrev Handler (σ α : Type) := ExceptT HandlerError (StateM σ) α

/-- Answers a tag; the answer tells whether the content of the element is wanted. -/
abbrev OpenHandler (σ : Type) := String → Attributes → Handler σ Bool

/-- Answers the content of an element, as the page has it. -/
abbrev ContentHandler (σ : Type) := String → Handler σ Unit

/-- A handler that failed, and the tag it was called for. -/
structure HandlerFailure where
  tag : String
  attributes : Attributes
  cause : HandlerError
  deriving DecidableEq

namespace HandlerFailure

def tagText (f : HandlerFailure) : String :=
  f.attributes.entries.foldl (fun s (key, value) => s ++ " " ++ key ++ "=" ++ Text.quoted value)
    f.tag

def message (f : HandlerFailure) : String :=
  "parse failed at <" ++ f.tagText ++ ">: " ++ f.cause.message

end HandlerFailure

end Imageboard
