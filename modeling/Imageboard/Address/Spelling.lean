import Imageboard.Address.Forms
import Imageboard.Text.Range
import Imageboard.Text.Search
import Imageboard.Text.SmallLetter

/-! How characters are spelled in domain names: in small letters, and without variants of a
letter that differ in shape alone. -/
namespace Imageboard.Address

/-- What a table of runs of characters, sorted by code, has for the character of a code. -/
def form? (parts : String → List (List Char)) (forms : List (Nat × String)) (code : Nat) :
    Option (List Char) :=
  (forms.takeWhile fun (first, _) => first ≤ code).getLast?.bind
    fun (first, text) => (parts text)[code - first]?

/-- The character that a full-width form widens. -/
def narrow (c : Char) : Char :=
  if 0xFF01 ≤ c.toNat ∧ c.toNat ≤ 0xFF5E then Char.ofNat (c.toNat - 0xFEE0) else c

/-- What is written for `c` in a domain name. -/
def spelling (c : Char) : List Char :=
  let small := Text.smallLetter (narrow c)
  match form? (fun text => text.toList.map ([·])) letterForms small.toNat,
    form? (fun text => Text.stretches (· == ' ') text.toList) wordForms small.toNat with
  | some s, _ => s
  | none, some s => s
  | none, none => [small]

/-- Characters that leave no trace in a domain name. -/
def ignoredRanges : List (Nat × Nat) :=
  [(0xAD, 0xAD), (0x34F, 0x34F), (0x115F, 0x1160), (0x17B4, 0x17B5), (0x180B, 0x180F),
   (0x200B, 0x200B), (0x2060, 0x2064), (0x206A, 0x206F), (0x3164, 0x3164), (0xFE00, 0xFE0F),
   (0xFEFF, 0xFEFF), (0xFFA0, 0xFFA0), (0x1BCA0, 0x1BCA3), (0x1D173, 0x1D17A), (0xE0100, 0xE01EF)]

def isIgnored (c : Char) : Bool := Text.inRanges ignoredRanges c

/-- Characters whose plain spelling would hold a space, a dot or a character that separates
parts of an address, and those that only describe others. -/
def unwritableRanges : List (Nat × Nat) :=
  [(0xA8, 0xA8), (0xAF, 0xAF), (0xB4, 0xB4), (0xB8, 0xB8), (0x2D8, 0x2DD), (0x37A, 0x37A),
   (0x384, 0x385), (0x1FBD, 0x1FBD), (0x1FBF, 0x1FC1), (0x1FCD, 0x1FCF), (0x1FDD, 0x1FDF),
   (0x1FED, 0x1FEE), (0x1FFD, 0x1FFE), (0x2017, 0x2017), (0x2024, 0x2026), (0x203E, 0x203E),
   (0x2047, 0x2049), (0x2100, 0x2101), (0x2105, 0x2106), (0x2488, 0x249B), (0x2A74, 0x2A74),
   (0x2FF0, 0x2FFF), (0x309B, 0x309C), (0x31EF, 0x31EF), (0x33C2, 0x33C2), (0x33C7, 0x33C7),
   (0x33D8, 0x33D8), (0xFC5E, 0xFC63), (0xFDFA, 0xFDFB), (0xFE12, 0xFE13), (0xFE16, 0xFE16),
   (0xFE19, 0xFE19), (0xFE30, 0xFE30), (0xFE47, 0xFE4C), (0xFE52, 0xFE52), (0xFE55, 0xFE56),
   (0xFE5F, 0xFE5F), (0xFE64, 0xFE65), (0xFE68, 0xFE68), (0xFE6A, 0xFE6B), (0xFE70, 0xFE70),
   (0xFE72, 0xFE72), (0xFE74, 0xFE74), (0xFE76, 0xFE76), (0xFE78, 0xFE78), (0xFE7A, 0xFE7A),
   (0xFE7C, 0xFE7C), (0xFE7E, 0xFE7E), (0xFFE3, 0xFFE3), (0xFFFC, 0xFFFD), (0x1F100, 0x1F100)]

def isUnwritable (c : Char) : Bool := Text.inRanges unwritableRanges c

end Imageboard.Address
