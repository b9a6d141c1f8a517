import Imageboard.Text.Hidden

/-! Quoted text, as it stands in messages and selectors: between double quotes, with quotes,
backslashes and the common controls escaped by a letter and other hidden characters written
as their number. -/
namespace Imageboard.Text

def hexadecimal (n : Nat) : List Char := Nat.toDigits 16 n

def quoteCharacter (c : Char) : List Char :=
  if c == '\t' then ['\\', 't']
  else if c == '\r' then ['\\', 'r']
  else if c == '\n' then ['\\', 'n']
  else if c == '\x00' then ['\\', '0']
  else if c == '\\' then ['\\', '\\']
  else if c == '"' then ['\\', '"']
  else if isHidden c then ['\\', 'u', '\x7b'] ++ hexadecimal c.toNat ++ ['\x7d']
  else [c]

def quoted (s : String) : String :=
  String.ofList ('"' :: s.toList.flatMap quoteCharacter ++ ['"'])

end Imageboard.Text
