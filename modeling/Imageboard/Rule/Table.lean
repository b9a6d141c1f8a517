import Imageboard.Markup.Options
import Imageboard.Rule.Handler
import Imageboard.Rule.Pattern

/-! Tables of rules. The first rule whose pattern matches a tag is the only one to answer it. -/
namespace Imageboard

structure Rule (σ : Type) where
  pattern : TagPattern
  onOpen : Option (OpenHandler σ) := none
  onContent : Option (ContentHandler σ) := none

structure RuleTable (σ : Type) where
  rules : List (Rule σ)
  options : Options

namespace RuleTable

/-- The rule that answers a tag. -/
def find? (table : RuleTable σ) (tag : String) (attributes : Attributes) : Option (Rule σ) :=
  table.rules.find? fun rule => rule.pattern.matchesTag tag attributes

/-- The place in the table of the rule that answers a tag. -/
def findIndex? (table : RuleTable σ) (tag : String) (attributes : Attributes) : Option Nat :=
  table.rules.findIdx? fun rule => rule.pattern.matchesTag tag attributes

end RuleTable

end Imageboard
