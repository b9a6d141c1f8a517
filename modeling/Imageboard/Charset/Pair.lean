import Imageboard.Charset.Decoder

/-! Charsets that write a character in one byte or two, of which the first is a lead.

A pair without a character makes one U+FFFD, and an ASCII byte that ends such a pair is read again, so
that no markup is lost to it. -/
namespace Imageboard.Charset

def isBetween (low high b : UInt8) : Bool := low ≤ b && b ≤ high

/-- The bytes of the 94 cells of a row. -/
def isHigh (b : UInt8) : Bool := isBetween 0xa1 0xfe b

/-- What a pair of bytes brings out, given the text that it writes. -/
def readPair (text : List Char) (second : UInt8) : List Char :=
  if text.isEmpty then replacementCharacter :: if isAscii second then [ascii second] else []
  else text

structure PairCharset where
  /-- The character that a byte writes alone. -/
  single? : UInt8 → Option Char
  isLead : UInt8 → Bool
  /-- What a lead and the byte behind it write, if anything. -/
  pair : (lead trail : UInt8) → List Char

/-- The character of an ASCII byte, and of no other. -/
def ascii? (b : UInt8) : Option Char := if isAscii b then some (ascii b) else none

namespace PairCharset

def step (p : PairCharset) (lead : Option UInt8) (b : UInt8) : Option UInt8 × List Char :=
  match lead with
  | some lead => (none, readPair (p.pair lead b) b)
  | none =>
    match p.single? b with
    | some c => (none, [c])
    | none => if p.isLead b then (some b, []) else (none, [replacementCharacter])

def decoder (p : PairCharset) : Decoder (Option UInt8) where
  start := none
  step := p.step
  finish lead := if lead.isSome then [replacementCharacter] else []

end PairCharset

end Imageboard.Charset
