import Imageboard.Numeral
import Imageboard.Text.Replace

/-! Character references: `&name;`, `&#decimal;` and `&#xhexadecimal;`.

A reference has at most ten characters between `&` and `;`. Whatever is no reference stays
as it is written, its `&` included. -/
namespace Imageboard.Reference

/-- Named references that board templates write. -/
def names : List (String × Char) :=
  [("amp", '&'), ("lt", '<'), ("gt", '>'), ("quot", '"'), ("apos", '\''), ("nbsp", '\u00a0'),
   ("shy", '\u00ad'), ("copy", '©'), ("reg", '®'), ("trade", '™'), ("hellip", '…'),
   ("mdash", '—'), ("ndash", '–'), ("laquo", '«'), ("raquo", '»'), ("lsquo", '‘'),
   ("rsquo", '’'), ("ldquo", '“'), ("rdquo", '”'), ("middot", '·'), ("bull", '•'),
   ("times", '×'), ("deg", '°')]

def longestBody : Nat := 10

def named? (body : List Char) : Option Char :=
  (names.find? fun (name, _) => name.toList == body).map (·.2)

/-- The character of a number, if there is one. -/
def character? (code : Nat) : Option Char :=
  if h : code.isValidChar then some (Char.ofNatAux code h) else none

/-- The character that a reference with this body stands for. -/
def ofBody? (body : List Char) : Option Char :=
  match body with
  | '#' :: number =>
    match number with
    | 'x' :: hex => (Numeral.natural? 16 UInt32.size hex).bind character?
    | 'X' :: hex => (Numeral.natural? 16 UInt32.size hex).bind character?
    | _ => if number.all Char.isDigit then (Numeral.natural? 10 UInt32.size number).bind character?
      else none
  | _ => named? body

/-- The character of a reference whose `&` has just been read, and what follows it. -/
def read? (s : List Char) : Option (Char × List Char) :=
  let body := (s.take (longestBody + 1)).takeWhile (· != ';')
  match s.drop body.length with
  | ';' :: rest => if body.length ≤ longestBody then (ofBody? body).map (·, rest) else none
  | _ => none

def match? : Text.Match
  | '&' :: s => (read? s).map fun (c, rest) => ([c], rest)
  | _ => none

/-- The text with every character reference replaced. -/
def decode (s : List Char) : List Char := Text.replaceAll match? s

def decoded (s : String) : String := String.ofList (decode s.toList)

end Imageboard.Reference
