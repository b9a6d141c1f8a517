import Imageboard.Charset.Decoder

/-! UTF-8.

The longest beginning of a character that the following byte cannot go on from makes one
U+FFFD. -/
namespace Imageboard.Charset

/-- A character of which some bytes have been read. -/
structure Utf8Sequence where
  /-- The bits read so far. -/
  bits : Nat
  /-- How many bytes there are to come. -/
  missing : Nat
  /-- The bounds of the next byte. -/
  low : UInt8
  high : UInt8
  deriving DecidableEq

namespace Utf8

/-- The sequence that a first byte above ASCII begins. -/
def lead? (b : UInt8) : Option Utf8Sequence :=
  if b < 0xc2 then none
  else if b < 0xe0 then some ⟨b.toNat - 0xc0, 1, 0x80, 0xbf⟩
  else if b = 0xe0 then some ⟨0, 2, 0xa0, 0xbf⟩
  else if b = 0xed then some ⟨13, 2, 0x80, 0x9f⟩
  else if b < 0xf0 then some ⟨b.toNat - 0xe0, 2, 0x80, 0xbf⟩
  else if b = 0xf0 then some ⟨0, 3, 0x90, 0xbf⟩
  else if b < 0xf4 then some ⟨b.toNat - 0xf0, 3, 0x80, 0xbf⟩
  else if b = 0xf4 then some ⟨4, 3, 0x80, 0x8f⟩
  else none

/-- Reads the first byte of a character. -/
def begin (b : UInt8) : Option Utf8Sequence × List Char :=
  if isAscii b then (none, [ascii b])
  else
    match lead? b with
    | some q => (some q, [])
    | none => (none, [replacementCharacter])

def step (q : Option Utf8Sequence) (b : UInt8) : Option Utf8Sequence × List Char :=
  match q with
  | none => begin b
  | some q =>
    if q.low ≤ b ∧ b ≤ q.high then
      let bits := q.bits * 64 + (b.toNat - 0x80)
      if q.missing = 1 then (none, [Char.ofNat bits])
      else (some ⟨bits, q.missing - 1, 0x80, 0xbf⟩, [])
    else ((begin b).1, replacementCharacter :: (begin b).2)

end Utf8

def utf8Decoder : Decoder (Option Utf8Sequence) where
  start := none
  step := Utf8.step
  finish q := if q.isSome then [replacementCharacter] else []

end Imageboard.Charset
