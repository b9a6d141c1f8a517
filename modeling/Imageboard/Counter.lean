import Imageboard.Numeral
import Imageboard.Text.DecimalDigit

/-! Counters that boards print in a sentence: `12 posts omitted`. -/
namespace Imageboard.Counter
open Text

/-- The first number in a text, if it is written in ASCII digits and below 2 ^ 32. -/
def read? (text : String) : Option UInt32 :=
  let digits := (text.toList.dropWhile fun c => !isDecimalDigit c).takeWhile isDecimalDigit
  Numeral.uint32? digits

end Imageboard.Counter
