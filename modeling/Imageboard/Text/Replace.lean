/-! Replacing every match of a pattern in a text.

A pattern is a function that looks at the beginning of a text and gives what to write for the
match there and what follows the match. Matches are taken from left to right and do not
overlap; every character that no match takes is copied. -/
namespace Imageboard.Text

abbrev Match := List Char → Option (List Char × List Char)

def replaceAll (find? : Match) : List Char → List Char
  | [] => []
  | c :: s =>
    match find? (c :: s) with
    | some (new, rest) =>
      if rest.length ≤ s.length then new ++ replaceAll find? rest else c :: replaceAll find? s
    | none => c :: replaceAll find? s
termination_by s => s.length

theorem replaceAll_none {find? : Match} {c : Char} {s : List Char} (h : find? (c :: s) = none) :
    replaceAll find? (c :: s) = c :: replaceAll find? s := by
  rw [replaceAll, h]

theorem replaceAll_some {find? : Match} {c : Char} {s new rest : List Char}
    (h : find? (c :: s) = some (new, rest)) (hl : rest.length ≤ s.length) :
    replaceAll find? (c :: s) = new ++ replaceAll find? rest := by
  rw [replaceAll, h]
  simp [hl]

end Imageboard.Text
