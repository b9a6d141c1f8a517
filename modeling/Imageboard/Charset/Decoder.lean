/-! Decoders: machines that read the bytes of a text one after the other.

A byte that cannot follow what was read before it makes a U+FFFD, and a decoder may then read
it again as the first of a character. -/
namespace Imageboard

structure Decoder (σ : Type) where
  start : σ
  /-- The state after a byte, and the characters that the byte brings out. -/
  step : σ → UInt8 → σ × List Char
  /-- The characters that are left when the bytes end. -/
  finish : σ → List Char

namespace Decoder

def decodeFrom (d : Decoder σ) : σ → List UInt8 → List Char
  | s, [] => d.finish s
  | s, b :: rest => (d.step s b).2 ++ d.decodeFrom (d.step s b).1 rest

def decode (d : Decoder σ) (bytes : List UInt8) : List Char := d.decodeFrom d.start bytes

/-- What the first bytes bring out, and the state they leave. -/
def runFrom (d : Decoder σ) : σ → List UInt8 → σ × List Char
  | s, [] => (s, [])
  | s, b :: rest =>
    let (t, out) := d.runFrom (d.step s b).1 rest
    (t, (d.step s b).2 ++ out)

theorem decodeFrom_append (d : Decoder σ) (s : σ) (a b : List UInt8) :
    d.decodeFrom s (a ++ b) = (d.runFrom s a).2 ++ d.decodeFrom (d.runFrom s a).1 b := by
  induction a generalizing s with
  | nil => rfl
  | cons x a ih => simp [decodeFrom, runFrom, ih]

end Decoder

namespace Charset

/-- What stands for bytes that write no character. -/
def replacementCharacter : Char := '\ufffd'

def isAscii (b : UInt8) : Bool := b < 0x80

/-- The character of an ASCII byte. -/
def ascii (b : UInt8) : Char := Char.ofNat b.toNat

end Charset

end Imageboard
