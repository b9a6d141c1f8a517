import Imageboard.Charset.KsRows
import Imageboard.Charset.Pair
import Imageboard.Charset.Rows

/-! EUC-KR, which writes the characters of KS X 1001 and, in the pairs left over, the syllables that
are not among them. -/
namespace Imageboard.Charset

namespace EucKr

/-- The syllables of the rows of KS X 1001. -/
def listedSyllables : List Nat :=
  (ksRows.filter fun row => 16 ≤ row.1 && row.1 ≤ 40).flatMap fun row => row.2.toList.map (·.toNat)

def otherSyllables : Array Char :=
  ((unlisted (List.range' 0xac00 11172) listedSyllables).map Char.ofNat).toArray

/-- The place of a second byte that follows a lead below those of KS X 1001. -/
def cell? (trail : UInt8) : Option Nat :=
  if isBetween 0x41 0x5a trail then some (trail.toNat - 0x41)
  else if isBetween 0x61 0x7a trail then some (trail.toNat - 0x61 + 26)
  else if isBetween 0x81 0xfe trail then some (trail.toNat - 0x81 + 52)
  else none

/-- The first 32 leads have 178 syllables each; the others have those of the 84 places below the cells
of KS X 1001. -/
def pair? (lead trail : UInt8) : Option Char :=
  if isHigh lead && isHigh trail then
    Charset.cell? ksRows (lead.toNat - 0xa0) (trail.toNat - 0xa1)
  else
    (cell? trail).bind fun cell =>
      if lead < 0xa1 then otherSyllables[(lead.toNat - 0x81) * 178 + cell]?
      else otherSyllables[32 * 178 + (lead.toNat - 0xa1) * 84 + cell]?

end EucKr

def eucKrPairs : PairCharset where
  single? := ascii?
  isLead := isBetween 0x81 0xfe
  pair lead trail := (EucKr.pair? lead trail).toList

end Imageboard.Charset
