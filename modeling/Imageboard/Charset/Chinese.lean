import Imageboard.Charset.Big5Rows
import Imageboard.Charset.GbRows
import Imageboard.Charset.Pair
import Imageboard.Charset.Rows

/-! Big5, and gb18030 with GBK in it. -/
namespace Imageboard.Charset

/-! ### Big5 -/

namespace Big5

/-- The place of a second byte in the row of its lead. -/
def cell? (trail : UInt8) : Option Nat :=
  if isBetween 0x40 0x7e trail then some (trail.toNat - 0x40)
  else if isHigh trail then some (trail.toNat - 0x62)
  else none

/-- Four pairs write a letter with two marks, which no character has. -/
def pair (lead trail : UInt8) : List Char :=
  match lead.toNat, trail.toNat with
  | 0x88, 0x62 => ['Ê', '\u0304']
  | 0x88, 0x64 => ['Ê', '\u030c']
  | 0x88, 0xa3 => ['ê', '\u0304']
  | 0x88, 0xa5 => ['ê', '\u030c']
  | lead, _ => ((cell? trail).bind (Charset.cell? big5Rows lead)).toList

end Big5

def big5Pairs : PairCharset where
  single? := ascii?
  isLead := isBetween 0x81 0xfe
  pair := Big5.pair

/-! ### gb18030

A pair of bytes stands in a row of 190 cells: those of GB 2312 are the last 94. The first rows and the
first cells of others have the ideographs that GB 2312 does not have. -/

namespace Gb18030

/-- The ideographs of GB 2312. -/
def listedIdeographs : List Nat :=
  ((gbRows.filter fun row => 0xb0 ≤ row.1).flatMap fun row => row.2.toList.map (·.toNat)).mergeSort

def otherIdeographs : Array Char :=
  (unlisted (List.range' 0x4e00 20902) listedIdeographs ++
    [0xf92c, 0xf979, 0xf995, 0xf9e7, 0xf9f1]).map Char.ofNat |>.toArray

/-- The characters that fonts may fill as they like. -/
def userDefined (n : Nat) : Char := Char.ofNat (0xe000 + n)

/-- The character of a cell below those of GB 2312. One that would be for fonts is a space. -/
def low? (lead cell : Nat) : Option Char :=
  if lead < 0xa1 then otherIdeographs[(lead - 0x81) * 190 + cell]?
  else if lead < 0xa8 then
    if lead = 0xa3 ∧ cell = 95 then some '\u3000'
    else some (userDefined (1222 + (lead - 0xa1) * 96 + cell))
  else if lead < 0xaa ∨ lead = 0xfe then cell? gbLowRows lead cell
  else otherIdeographs[32 * 190 + (lead - 0xaa) * 96 + cell]?

/-- The character of a cell of GB 2312. -/
def high? (lead cell : Nat) : Option Char :=
  if lead < 0xa1 then otherIdeographs[(lead - 0x81) * 190 + 96 + cell]?
  else if 0xaa ≤ lead ∧ lead < 0xb0 then some (userDefined ((lead - 0xaa) * 94 + cell))
  else if 0xf8 ≤ lead then some (userDefined (564 + (lead - 0xf8) * 94 + cell))
  else cell? gbRows lead cell

def pair? (lead trail : UInt8) : Option Char :=
  if isHigh trail then high? lead.toNat (trail.toNat - 0xa1)
  else if isBetween 0x40 0x7e trail then low? lead.toNat (trail.toNat - 0x40)
  else if isBetween 0x80 0xa0 trail then low? lead.toNat (trail.toNat - 0x41)
  else none

/-- The character of four bytes. They count through the codes that no pair writes, and behind the gap
through those of more than 16 bits. -/
def four? (first second third fourth : UInt8) : Option Char :=
  let index :=
    (((first.toNat - 0x81) * 10 + (second.toNat - 0x30)) * 126 + (third.toNat - 0x81)) * 10 +
      (fourth.toNat - 0x30)
  if index = 7457 then some '\ue7c7'
  else if 39420 ≤ index ∧ index < 189000 ∨ 1237576 ≤ index then none
  else (gbRuns.takeWhile (·.1 ≤ index)).getLast?.map fun (start, code) =>
    Char.ofNat (code + (index - start))

/-- The bytes of a character read so far. -/
inductive State where
  | start
  | first (b : UInt8)
  | second (b₁ b₂ : UInt8)
  | third (b₁ b₂ b₃ : UInt8)
  deriving DecidableEq

def isLead (b : UInt8) : Bool := isBetween 0x81 0xfe b

def isDigit (b : UInt8) : Bool := isBetween 0x30 0x39 b

def begin (b : UInt8) : State × List Char :=
  if isAscii b then (.start, [ascii b])
  else if b == 0x80 then (.start, ['€'])
  else if isLead b then (.first b, [])
  else (.start, [replacementCharacter])

def goOn (lead b : UInt8) : State × List Char :=
  if isDigit b then (.second lead b, []) else (.start, readPair (pair? lead b).toList b)

/-- Where four bytes write no character because one of them does not fit, those behind the first are
read again. -/
def step : State → UInt8 → State × List Char
  | .start, b => begin b
  | .first b₁, b => goOn b₁ b
  | .second b₁ b₂, b =>
    if isLead b then (.third b₁ b₂ b, [])
    else
      let (state, text) := begin b
      (state, replacementCharacter :: ascii b₂ :: text)
  | .third b₁ b₂ b₃, b =>
    if isDigit b then (.start, [(four? b₁ b₂ b₃ b).getD replacementCharacter])
    else
      let (state, text) := goOn b₃ b
      (state, replacementCharacter :: ascii b₂ :: text)

end Gb18030

def gb18030Decoder : Decoder Gb18030.State where
  start := .start
  step := Gb18030.step
  finish
    | .start => []
    | _ => [replacementCharacter]

end Imageboard.Charset
