import Imageboard.Charset.Decoder

/-! UTF-16 in either order of bytes.

A surrogate without its partner makes one U+FFFD, and so does a text that ends inside a
character. -/
namespace Imageboard.Charset

inductive ByteOrder where
  | littleEndian
  | bigEndian
  deriving DecidableEq

structure Utf16State where
  /-- The first byte of a unit. -/
  byte : Option UInt8 := none
  /-- The first surrogate of a pair. -/
  surrogate : Option Nat := none
  deriving DecidableEq

namespace Utf16

def unit : ByteOrder → (first second : UInt8) → Nat
  | .littleEndian, first, second => second.toNat * 256 + first.toNat
  | .bigEndian, first, second => first.toNat * 256 + second.toNat

def isFirstSurrogate (n : Nat) : Bool := 0xd800 ≤ n && n ≤ 0xdbff

def isSecondSurrogate (n : Nat) : Bool := 0xdc00 ≤ n && n ≤ 0xdfff

def pair (first second : Nat) : Char :=
  Char.ofNat (0x10000 + (first - 0xd800) * 1024 + (second - 0xdc00))

/-- Reads a unit at the beginning of a character. -/
def begin (n : Nat) : Utf16State × List Char :=
  if isFirstSurrogate n then ({ surrogate := some n }, [])
  else if isSecondSurrogate n then ({}, [replacementCharacter])
  else ({}, [Char.ofNat n])

def readUnit (surrogate : Option Nat) (n : Nat) : Utf16State × List Char :=
  match surrogate with
  | none => begin n
  | some first =>
    if isSecondSurrogate n then ({}, [pair first n])
    else ((begin n).1, replacementCharacter :: (begin n).2)

def step (order : ByteOrder) (s : Utf16State) (b : UInt8) : Utf16State × List Char :=
  match s.byte with
  | none => ({ s with byte := some b }, [])
  | some first => readUnit s.surrogate (unit order first b)

end Utf16

def utf16Decoder (order : ByteOrder) : Decoder Utf16State where
  start := {}
  step := Utf16.step order
  finish s := if s.byte.isSome || s.surrogate.isSome then [replacementCharacter] else []

end Imageboard.Charset
