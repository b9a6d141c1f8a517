import Imageboard.Rule.Table
import Imageboard.Text.Quoted

/-! Tables described in one line, for people who look for the rule that answers a tag. -/
namespace Imageboard

namespace Description

/-- A record with its fields in order. -/
def record (name : String) (fields : List (String × String)) : String :=
  let written := fields.map fun (field, value) => field ++ ": " ++ value
  name ++ " \x7b " ++ String.intercalate ", " written ++ " \x7d"

def list (items : List String) : String := "[" ++ String.intercalate ", " items ++ "]"

def bool (b : Bool) : String := if b then "true" else "false"

/-- A pattern over an attribute, with the name of its last field. -/
def onAttribute (name tag key field value : String) : String :=
  record name
    [("tag", Text.quoted tag), ("key", Text.quoted key), (field, Text.quoted value)]

end Description
open Description

def TagPattern.description : TagPattern → String
  | name tag => record "Name" [("tag", Text.quoted tag)]
  | equals tag key value => onAttribute "AttrEquals" tag key "value" value
  | startsWith tag key lead => onAttribute "AttrStartsWith" tag key "prefix" lead
  | contains tag key part => onAttribute "AttrContains" tag key "substring" part
  | endsWith tag key tail => onAttribute "AttrEndsWith" tag key "suffix" tail

/-- Of its handlers a rule tells only which it has. -/
def Rule.description (rule : Rule σ) : String :=
  record "Matcher"
    [("pattern", rule.pattern.description), ("open", bool rule.onOpen.isSome),
     ("content", bool rule.onContent.isSome)]

def Options.description (o : Options) : String :=
  record "Options"
    [("decode_attribute_entities", bool o.decodeReferences),
     ("raw_text_elements", list (o.rawTextElements.map Text.quoted)),
     ("flush_capture_at_eof", bool o.flushOpenCapture)]

def RuleTable.description (table : RuleTable σ) : String :=
  record "RuleTable"
    [("matchers", list (table.rules.map Rule.description)), ("options", table.options.description)]

end Imageboard
