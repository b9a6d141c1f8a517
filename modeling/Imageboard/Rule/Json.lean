import Imageboard.Json.Record
import Imageboard.Rule.Pattern

/-! Tag patterns as JSON: an object with the kind of the pattern and its texts, or an array of
the kind and the texts in order. -/
namespace Imageboard.TagPattern
open Json

/-- The names of the texts of a pattern of some kind. -/
def textNames? (kind : String) : Option (List String) :=
  match kind with
  | "name" => some ["tag"]
  | "attr_equals" => some ["tag", "key", "value"]
  | "attr_starts_with" => some ["tag", "key", "prefix"]
  | "attr_contains" => some ["tag", "key", "substring"]
  | "attr_ends_with" => some ["tag", "key", "suffix"]
  | _ => none

/-- The pattern of some kind with these texts. -/
def ofTexts? (kind : String) (texts : List String) : Option TagPattern :=
  match kind, texts with
  | "name", [tag] => some (name tag)
  | "attr_equals", [tag, key, value] => some (equals tag key value)
  | "attr_starts_with", [tag, key, lead] => some (startsWith tag key lead)
  | "attr_contains", [tag, key, part] => some (contains tag key part)
  | "attr_ends_with", [tag, key, tail] => some (endsWith tag key tail)
  | _, _ => none

def kind : TagPattern → String
  | name _ => "name"
  | equals _ _ _ => "attr_equals"
  | startsWith _ _ _ => "attr_starts_with"
  | contains _ _ _ => "attr_contains"
  | endsWith _ _ _ => "attr_ends_with"

def texts : TagPattern → List String
  | name tag => [tag]
  | equals tag key value => [tag, key, value]
  | startsWith tag key lead => [tag, key, lead]
  | contains tag key part => [tag, key, part]
  | endsWith tag key tail => [tag, key, tail]

theorem ofTexts?_texts (p : TagPattern) : ofTexts? p.kind p.texts = some p := by
  cases p <;> rfl

def toJson (p : TagPattern) : Json :=
  let names := (textNames? p.kind).getD []
  object (("kind", string p.kind) :: names.zip (p.texts.map string))

def ofJson? : Json → Option TagPattern
  | object fields => do
    let kind ← required fields "kind" asString?
    let names ← textNames? kind
    ofTexts? kind (← names.mapM fun name => required fields name asString?)
  | array (kind :: items) => do
    ofTexts? (← kind.asString?) (← items.mapM asString?)
  | _ => none

end Imageboard.TagPattern
