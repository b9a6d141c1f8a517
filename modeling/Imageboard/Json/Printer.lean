import Imageboard.Json.Basic

/-! Writing JSON text, all on one line or with two spaces of indent a level.

A string escapes quotes, backslashes and the controls below the space, and nothing else. -/
namespace Imageboard
namespace Json

def hexDigit (n : Nat) : Char := (Nat.toDigits 16 n).headD '0'

def escapeCharacter (c : Char) : List Char :=
  if c == '"' then ['\\', '"']
  else if c == '\\' then ['\\', '\\']
  else if c == '\x08' then ['\\', 'b']
  else if c == '\x0c' then ['\\', 'f']
  else if c == '\n' then ['\\', 'n']
  else if c == '\r' then ['\\', 'r']
  else if c == '\t' then ['\\', 't']
  else if c.toNat < 0x20 then ['\\', 'u', '0', '0', hexDigit (c.toNat / 16), hexDigit (c.toNat % 16)]
  else [c]

def writeString (s : String) : String :=
  String.ofList ('"' :: s.toList.flatMap escapeCharacter ++ ['"'])

/-- A fraction keeps a point or an exponent, so that it reads back as a fraction. Between
1e-5 and 1e16 it is written without an exponent. -/
def writeDecimal (d : Decimal) : String :=
  let sign := if d.negative then "-" else ""
  let written := Nat.toDigits 10 d.digits
  let kept := (written.reverse.dropWhile (· == '0')).reverse
  let exponent := d.exponent + (written.length - kept.length)
  let point := kept.length + exponent
  let zeros (n : Int) : List Char := List.replicate n.toNat '0'
  let body : List Char :=
    if kept.isEmpty then ['0', '.', '0']
    else if 0 ≤ exponent ∧ point ≤ 16 then kept ++ zeros exponent ++ ['.', '0']
    else if 0 < point ∧ point ≤ 16 then kept.take point.toNat ++ ['.'] ++ kept.drop point.toNat
    else if -5 < point ∧ point ≤ 0 then ['0', '.'] ++ zeros (-point) ++ kept
    else
      let tail := if kept.length = 1 then [] else '.' :: kept.drop 1
      kept.take 1 ++ tail ++ ['e'] ++ (toString (point - 1)).toList
  sign ++ String.ofList body

/-- How the parts of arrays and objects are set: on one line, or at some indent. -/
inductive Layout where
  | compact
  | indented (level : Nat)

namespace Layout

def deeper : Layout → Layout
  | compact => compact
  | indented n => indented (n + 1)

def lineBreak : Layout → String
  | compact => ""
  | indented n => String.ofList ('\n' :: List.replicate (2 * n) ' ')

def colon : Layout → String
  | compact => ":"
  | indented _ => ": "

/-- Parts between brackets, separated by commas. -/
def enclose (layout : Layout) (opening closing : String) : List String → String
  | [] => opening ++ closing
  | parts =>
    opening ++ layout.deeper.lineBreak ++ String.intercalate ("," ++ layout.deeper.lineBreak) parts ++
      layout.lineBreak ++ closing

end Layout

mutual

def write (layout : Layout) : Json → String
  | null => "null"
  | bool true => "true"
  | bool false => "false"
  | integer n => toString n
  | decimal d => writeDecimal d
  | string s => writeString s
  | array items => layout.enclose "[" "]" (writeItems layout.deeper items)
  | object fields => layout.enclose "\x7b" "\x7d" (writeFields layout.deeper fields)

def writeItems (layout : Layout) : List Json → List String
  | [] => []
  | item :: rest => write layout item :: writeItems layout rest

def writeFields (layout : Layout) : List (String × Json) → List String
  | [] => []
  | (key, value) :: rest =>
    (writeString key ++ layout.colon ++ write layout value) :: writeFields layout rest

end

def compact (json : Json) : String := json.write .compact

def pretty (json : Json) : String := json.write (.indented 0)

end Json

end Imageboard
