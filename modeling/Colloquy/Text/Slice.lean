/-!
# Slices by byte offsets

A place in a text is the number of bytes before it when each character is
encoded in UTF-8.  A slice between two places is there only if the places are
in order, inside the text, and between characters.
-/

namespace Colloquy.Text

/-- The number of bytes of a text. -/
def byteSize : List Char → Nat
  | [] => 0
  | c :: cs => c.utf8Size + byteSize cs

/-- What follows a place. -/
def dropBytes : Nat → List Char → Option (List Char)
  | 0, cs => some cs
  | _ + 1, [] => none
  | n + 1, c :: cs => if c.utf8Size ≤ n + 1 then dropBytes (n + 1 - c.utf8Size) cs else none

/-- What precedes a place. -/
def takeBytes : Nat → List Char → Option (List Char)
  | 0, _ => some []
  | _ + 1, [] => none
  | n + 1, c :: cs =>
      if c.utf8Size ≤ n + 1 then (takeBytes (n + 1 - c.utf8Size) cs).map (c :: ·) else none

/-- What lies between two places. -/
def slice? (start stop : Nat) (cs : List Char) : Option (List Char) :=
  if start ≤ stop then (dropBytes start cs).bind (takeBytes (stop - start)) else none

/-- The character that starts at a place. -/
def charAt? (place : Nat) (cs : List Char) : Option Char :=
  (dropBytes place cs).bind List.head?

end Colloquy.Text
