/-! Tables of characters.

A character stands in a row and, in it, in a cell. The rows that have characters are listed, each up to
its last one; a space stands in a cell without a character. -/
namespace Imageboard.Charset

def cell? (rows : List (Nat × String)) (row cell : Nat) : Option Char := do
  ((← rows.lookup row).toList[cell]?).filter (· != ' ')

/-- The codes that are not among the listed ones. Both lists ascend, and begin at or after the first
code. -/
def unlisted : (codes listed : List Nat) → List Nat
  | [], _ => []
  | codes, [] => codes
  | n :: codes, m :: listed =>
    if n = m then unlisted codes listed else n :: unlisted codes (m :: listed)

end Imageboard.Charset
