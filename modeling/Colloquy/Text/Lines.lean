/-!
# Lines

A text falls into *pieces* at its newlines, always one piece more than there
are newlines.  A paragraph of body text is a piece.

A line of a script is a piece with its carriage returns taken off.  The piece
before a newline gives up two of them, one as part of the line ending and one
that a careless editor may have left.  The piece after the last newline gives up
one.  When that last piece is empty it is no line at all, so a final newline
ends the last line and starts none.
-/

namespace Colloquy.Text

/-- The pieces between the newlines of a text. -/
def pieces : List Char → List (List Char)
  | [] => [[]]
  | c :: cs =>
      if c = '\n' then [] :: pieces cs
      else match pieces cs with
        | [] => [[c]]
        | p :: ps => (c :: p) :: ps

/-- Pieces put back together, a newline between each two. -/
def unpieces (ps : List (List Char)) : List Char := ['\n'].intercalate ps

theorem pieces_ne_nil (cs : List Char) : pieces cs ≠ [] := by
  cases cs with
  | nil => simp [pieces]
  | cons c cs =>
    unfold pieces
    split
    · simp
    · split <;> simp

/-- A text without one trailing carriage return. -/
def dropReturn (cs : List Char) : List Char :=
  if cs.getLast? = some '\r' then cs.dropLast else cs

/-- The lines that pieces stand for. -/
def linesOfPieces : List (List Char) → List (List Char)
  | [] => []
  | [p] => if p = [] then [] else [dropReturn p]
  | p :: q :: ps => dropReturn (dropReturn p) :: linesOfPieces (q :: ps)

/-- The lines of a script. -/
def lines (cs : List Char) : List (List Char) := linesOfPieces (pieces cs)

end Colloquy.Text
