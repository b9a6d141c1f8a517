import Imageboard.Numeral

/-! Percent encoding: a byte that a part of an address cannot hold is written `%` and two
hexadecimal digits. Which ASCII characters a part cannot hold is its set; characters beyond
ASCII are always encoded, byte by byte. -/
namespace Imageboard.Address

def upperHexDigit (n : Nat) : Char := (Nat.toDigits 16 n).headD '0' |>.toUpper

def encodeByte (b : UInt8) : List Char :=
  ['%', upperHexDigit (b.toNat / 16), upperHexDigit (b.toNat % 16)]

def encodeCharacter (set : Char → Bool) (c : Char) : List Char :=
  if c.toNat < 128 && !set c then [c] else (String.utf8EncodeChar c).flatMap encodeByte

def percentEncode (set : Char → Bool) (s : List Char) : List Char :=
  s.flatMap (encodeCharacter set)

/-! ### The sets of the parts of an address -/

def isControl (c : Char) : Bool := c.toNat < 32 || c.toNat == 127

def isOneOf (characters : String) (c : Char) : Bool := characters.toList.contains c

def fragmentSet (c : Char) : Bool := isControl c || isOneOf " \"<>`" c

def querySet (c : Char) : Bool := isControl c || isOneOf " \"#<>" c

def specialQuerySet (c : Char) : Bool := querySet c || c == '\''

def pathSet (c : Char) : Bool := fragmentSet c || isOneOf "#?\x7b\x7d" c

def userinfoSet (c : Char) : Bool := pathSet c || isOneOf "/:;=@[\\]^|" c

/-- The set of a path segment that is given as a whole, so that nothing in it may separate
segments or start an encoded byte. -/
def segmentSet (special : Bool) (c : Char) : Bool :=
  pathSet c || c == '/' || c == '%' || special && c == '\\'

/-! ### Decoding -/

/-- The bytes of a text with its encoded bytes decoded; a `%` that starts none stays. -/
def percentDecode : List Char → List UInt8
  | [] => []
  | '%' :: a :: b :: s =>
    match Numeral.digit? 16 a, Numeral.digit? 16 b with
    | some high, some low => UInt8.ofNat (high * 16 + low) :: percentDecode s
    | _, _ => 37 :: percentDecode (a :: b :: s)
  | c :: s => String.utf8EncodeChar c ++ percentDecode s

/-- The text that bytes write in UTF-8, if they do. -/
def utf8? (bytes : List UInt8) : Option (List Char) :=
  (String.fromUTF8? (ByteArray.mk bytes.toArray)).map String.toList

end Imageboard.Address
