import Imageboard.Text.Lowercase

/-! How leniently markup is read. -/
namespace Imageboard

structure Options where
  /-- Character references in attribute values are replaced before any rule sees them. -/
  decodeReferences : Bool := true
  /-- Elements whose body is opaque up to their own end tag. -/
  rawTextElements : List String := ["script", "style"]
  /-- A capture that the page leaves open is handed over with the rest of the page. -/
  flushOpenCapture : Bool := true
  deriving DecidableEq

namespace Options

/-- The names of raw-text elements compare without ASCII case. -/
def isRawText (o : Options) (name : String) : Bool :=
  o.rawTextElements.any fun element => Text.lowercased element == Text.lowercased name

end Options

end Imageboard
