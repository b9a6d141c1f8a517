import Imageboard.Charset.Chinese
import Imageboard.Charset.CodePage
import Imageboard.Charset.Japanese
import Imageboard.Charset.Korean
import Imageboard.Charset.Utf8
import Imageboard.Charset.Utf16
import Imageboard.Text.Lowercase

/-! Charsets: how the bytes of a page write its text, and the labels that name them. -/
namespace Imageboard

inductive Charset where
  | utf8
  | utf16 (order : Charset.ByteOrder)
  | codePage (page : CodePage)
  | shiftJis
  | eucJp
  | iso2022Jp
  | gbk
  | gb18030
  | big5
  | eucKr
  /-- ASCII, and above it characters that only fonts know. -/
  | userDefined
  /-- A charset that is not read at all, because it lets markup hide in text. -/
  | replacement
  deriving DecidableEq

namespace Charset

def name : Charset → String
  | .utf8 => "UTF-8"
  | .utf16 .littleEndian => "UTF-16LE"
  | .utf16 .bigEndian => "UTF-16BE"
  | .shiftJis => "Shift_JIS"
  | .eucJp => "EUC-JP"
  | .iso2022Jp => "ISO-2022-JP"
  | .gbk => "GBK"
  | .gb18030 => "gb18030"
  | .big5 => "Big5"
  | .eucKr => "EUC-KR"
  | .userDefined => "x-user-defined"
  | .replacement => "replacement"
  | .codePage page => page.name

/-- The labels that a page may declare the charset by, in lower case. -/
def labels : Charset → List String
  | .utf8 =>
    ["unicode-1-1-utf-8", "unicode11utf8", "unicode20utf8", "utf-8", "utf8", "x-unicode20utf8"]
  | .utf16 .littleEndian =>
    ["csunicode", "iso-10646-ucs-2", "ucs-2", "unicode", "unicodefeff", "utf-16", "utf-16le"]
  | .utf16 .bigEndian => ["unicodefffe", "utf-16be"]
  | .shiftJis =>
    ["csshiftjis", "ms932", "ms_kanji", "shift-jis", "shift_jis", "sjis", "windows-31j", "x-sjis"]
  | .eucJp => ["cseucpkdfmtjapanese", "euc-jp", "x-euc-jp"]
  | .iso2022Jp => ["csiso2022jp", "iso-2022-jp"]
  | .gbk =>
    ["chinese", "csgb2312", "csiso58gb231280", "gb2312", "gb_2312", "gb_2312-80", "gbk",
     "iso-ir-58", "x-gbk"]
  | .gb18030 => ["gb18030"]
  | .big5 => ["big5", "big5-hkscs", "cn-big5", "csbig5", "x-x-big5"]
  | .eucKr =>
    ["cseuckr", "csksc56011987", "euc-kr", "iso-ir-149", "korean", "ks_c_5601-1987",
     "ks_c_5601-1989", "ksc5601", "ksc_5601", "windows-949"]
  | .userDefined => ["x-user-defined"]
  | .replacement =>
    ["csiso2022kr", "hz-gb-2312", "iso-2022-cn", "iso-2022-cn-ext", "iso-2022-kr", "replacement"]
  | .codePage page => page.labels

def all : List Charset :=
  [.utf8, .utf16 .littleEndian, .utf16 .bigEndian, .shiftJis, .eucJp, .iso2022Jp, .gbk, .gb18030,
   .big5, .eucKr, .userDefined, .replacement] ++ CodePage.all.map .codePage

/-- The charset that a label names. -/
def ofLabel? (label : List Char) : Option Charset :=
  let label := String.ofList (Text.lowercase label)
  all.find? fun charset => charset.labels.contains label

/-! ### Decoding -/

def userDefinedCharacter (b : UInt8) : Char :=
  if isAscii b then ascii b else Char.ofNat (0xf780 + (b.toNat - 0x80))

/-- The text that bytes write. Pages in GBK are read as gb18030, of which it is a part. -/
def decode : Charset → List UInt8 → List Char
  | .utf8, bytes => utf8Decoder.decode bytes
  | .utf16 order, bytes => (utf16Decoder order).decode bytes
  | .codePage page, bytes => page.decode bytes
  | .shiftJis, bytes => shiftJisPairs.decoder.decode bytes
  | .eucJp, bytes => eucJpDecoder.decode bytes
  | .iso2022Jp, bytes => iso2022JpDecoder.decode bytes
  | .gbk, bytes => gb18030Decoder.decode bytes
  | .gb18030, bytes => gb18030Decoder.decode bytes
  | .big5, bytes => big5Pairs.decoder.decode bytes
  | .eucKr, bytes => eucKrPairs.decoder.decode bytes
  | .userDefined, bytes => bytes.map userDefinedCharacter
  | .replacement, bytes => if bytes.isEmpty then [] else [replacementCharacter]

end Charset

end Imageboard
