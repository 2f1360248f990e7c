/-!
# Blank characters

A character is blank when Unicode gives it the property `White_Space`.  There
are 25 of them.  Trimming removes blank characters from both ends of a text and
touches nothing in between.

Texts are lists of characters here, so that every function is a recursion on
the list.
-/

namespace Colloquy.Text

/-- The property `White_Space`. -/
def isBlank (c : Char) : Bool :=
  (0x09 ≤ c.toNat && c.toNat ≤ 0x0D) || c.toNat == 0x20 || c.toNat == 0x85 ||
  c.toNat == 0xA0 || c.toNat == 0x1680 || (0x2000 ≤ c.toNat && c.toNat ≤ 0x200A) ||
  c.toNat == 0x2028 || c.toNat == 0x2029 || c.toNat == 0x202F || c.toNat == 0x205F ||
  c.toNat == 0x3000

/-- A text without its leading blanks. -/
def trimLeft (cs : List Char) : List Char := cs.dropWhile isBlank

/-- A text without its trailing blanks. -/
def trimRight (cs : List Char) : List Char := (cs.reverse.dropWhile isBlank).reverse

/-- A text without blanks at either end. -/
def trim (cs : List Char) : List Char := trimRight (trimLeft cs)

/-- A text of blanks alone. -/
def isAllBlank (cs : List Char) : Bool := cs.all isBlank

end Colloquy.Text
