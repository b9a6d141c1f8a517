import Imageboard.Charset.JisRows
import Imageboard.Charset.JisSupplementRows
import Imageboard.Charset.Pair

/-! Shift_JIS, EUC-JP and ISO-2022-JP: three ways to write the characters of JIS X 0208 beside
ASCII and half-width kana. EUC-JP also writes those of JIS X 0212. -/
namespace Imageboard.Charset

/-- The half-width kana of a byte from 0 on. -/
def halfWidthKana (n : Nat) : Char := Char.ofNat (0xff61 + n)

/-! ### Shift_JIS -/

namespace ShiftJis

/-- The place in JIS X 0208 of a pair of bytes. -/
def index? (lead trail : UInt8) : Option Nat :=
  if isBetween 0x40 0x7e trail || isBetween 0x80 0xfc trail then
    let row := lead.toNat - (if lead < 0xa0 then 0x81 else 0xc1)
    some (row * 188 + (trail.toNat - (if trail < 0x7f then 0x40 else 0x41)))
  else none

/-- The places that fonts may fill as they like. -/
def isUserDefined (index : Nat) : Bool := 8836 ≤ index && index ≤ 10715

def pair? (lead trail : UInt8) : Option Char :=
  (index? lead trail).bind fun index =>
    if isUserDefined index then some (Char.ofNat (0xe000 + (index - 8836))) else jisCharacter? index

def single? (b : UInt8) : Option Char :=
  if isAscii b || b == 0x80 then some (ascii b)
  else if isBetween 0xa1 0xdf b then some (halfWidthKana (b.toNat - 0xa1))
  else none

end ShiftJis

def shiftJisPairs : PairCharset where
  single? := ShiftJis.single?
  isLead b := isBetween 0x81 0x9f b || isBetween 0xe0 0xfc b
  pair lead trail := (ShiftJis.pair? lead trail).toList

/-! ### EUC-JP -/

namespace EucJp

inductive State where
  | start
  | lead (b : UInt8)
  /-- After the mark of JIS X 0212 and the first byte of a character of it. -/
  | supplement (lead : UInt8)
  deriving DecidableEq

/-- The character of a pair of bytes, given the rows it may stand in. -/
def pair? (rows : List (Nat × String)) (lead trail : UInt8) : Option Char :=
  if isHigh lead && isHigh trail then cell? rows (lead.toNat - 0xa0) (trail.toNat - 0xa1) else none

def step : State → UInt8 → State × List Char
  | .start, b =>
    if isAscii b then (.start, [ascii b])
    else if isHigh b || b == 0x8e || b == 0x8f then (.lead b, [])
    else (.start, [replacementCharacter])
  | .lead lead, b =>
    if lead == 0x8e && isBetween 0xa1 0xdf b then (.start, [halfWidthKana (b.toNat - 0xa1)])
    else if lead == 0x8f && isHigh b then (.supplement b, [])
    else (.start, readPair (pair? jisRows lead b).toList b)
  | .supplement lead, b => (.start, readPair (pair? jisSupplementRows lead b).toList b)

end EucJp

def eucJpDecoder : Decoder EucJp.State where
  start := .start
  step := EucJp.step
  finish
    | .start => []
    | _ => [replacementCharacter]

/-! ### ISO-2022-JP

An ASCII byte that ends a pair without a character is not read again. -/

namespace Iso2022Jp

inductive CharacterSet where
  | ascii
  | roman
  | kana
  | kanji
  deriving DecidableEq

inductive Escape where
  | none
  /-- After the escape character. -/
  | begun
  /-- After the escape character and the byte that follows it. -/
  | continued (b : UInt8)
  deriving DecidableEq

structure State where
  /-- The set that the last escape chose. -/
  set : CharacterSet := .ascii
  /-- The first byte of a pair. -/
  lead : Option UInt8 := none
  escape : Escape := .none
  /-- Whether the last escape still waits for a character. -/
  fresh : Bool := false
  deriving DecidableEq

/-- The set that the two bytes after the escape character choose. -/
def chosen? (first second : UInt8) : Option CharacterSet :=
  match first.toNat, second.toNat with
  | 0x28, 0x42 => some .ascii
  | 0x28, 0x4a => some .roman
  | 0x28, 0x49 => some .kana
  | 0x24, 0x40 => some .kanji
  | 0x24, 0x42 => some .kanji
  | _, _ => none

/-- The character of a byte outside pairs. -/
def single? (set : CharacterSet) (b : UInt8) : Option Char :=
  let plain := if isAscii b && b != 0x0e && b != 0x0f then some (ascii b) else none
  match set with
  | .ascii => plain
  | .roman => if b == 0x5c then some '¥' else if b == 0x7e then some '‾' else plain
  | .kana => if isBetween 0x21 0x5f b then some (halfWidthKana (b.toNat - 0x21)) else none
  | .kanji => none

def isCell (b : UInt8) : Bool := isBetween 0x21 0x7e b

def pair? (lead trail : UInt8) : Option Char :=
  if isCell trail then jisCharacter? ((lead.toNat - 0x21) * 94 + (trail.toNat - 0x21)) else none

/-- The character, or what stands for none. -/
def orReplacement (c : Option Char) : Char := c.getD replacementCharacter

/-- Reads a byte outside escapes. -/
def readByte (s : State) (b : UInt8) : State × List Char :=
  if b == 0x1b then
    ({ s with lead := none, escape := .begun }, if s.lead.isSome then [replacementCharacter] else [])
  else
    match s.lead with
    | some lead => ({ set := s.set }, [orReplacement (pair? lead b)])
    | none =>
      if s.set = .kanji ∧ isCell b then ({ set := s.set, lead := some b }, [])
      else ({ set := s.set }, [orReplacement (single? s.set b)])

/-- Reads the bytes of an escape that chooses nothing as text. -/
def readAgain (s : State) : List UInt8 → State × List Char
  | [] => (s, [])
  | b :: rest =>
    let (t, out) := readByte s b
    let (t, more) := readAgain t rest
    (t, out ++ more)

/-- Gives up an escape: its bytes after the escape character are text. -/
def giveUp (s : State) (bytes : List UInt8) : State × List Char :=
  let (t, out) := readAgain { set := s.set } bytes
  (t, replacementCharacter :: out)

/-- Two escapes with nothing between them make one U+FFFD. -/
def choose (s : State) (set : CharacterSet) : State × List Char :=
  ({ set, fresh := true }, if s.fresh then [replacementCharacter] else [])

def step (s : State) (b : UInt8) : State × List Char :=
  match s.escape with
  | .none => readByte s b
  | .begun =>
    if b == 0x24 || b == 0x28 then ({ s with escape := .continued b }, []) else giveUp s [b]
  | .continued first =>
    match chosen? first b with
    | some set => choose s set
    | none => giveUp s [first, b]

def finish (s : State) : List Char :=
  match s.escape with
  | .none => if s.lead.isSome then [replacementCharacter] else []
  | .begun => [replacementCharacter]
  | .continued first =>
    let (t, out) := giveUp s [first]
    out ++ if t.lead.isSome then [replacementCharacter] else []

end Iso2022Jp

def iso2022JpDecoder : Decoder Iso2022Jp.State where
  start := {}
  step := Iso2022Jp.step
  finish := Iso2022Jp.finish

end Imageboard.Charset
