import Colloquy.Number.Binary
import Colloquy.Text.Reader

/-!
# Reading decimals

A decimal is written as a sign, digits with or without a point, and an
exponent.  All parts can be left out, but one digit has to be there before the
exponent.
-/

namespace Colloquy.Number

open Colloquy.Text

/-- A sign, and whether it is a minus. -/
def readSign : Reader Bool := do
  if ← Reader.accept ['-'] then pure true
  else
    let _ ← Reader.accept ['+']
    pure false

/-- The exponent of a decimal, zero where there is none. -/
def readExponent : Reader Int := do
  match ← Reader.peek with
  | some c =>
      if c = 'e' ∨ c = 'E' then do
        let _ ← Reader.next
        let negative ← readSign
        let ds ← Reader.span1 Char.isDigit
        let n : Int := digits 10 ds
        pure (if negative then -n else n)
      else pure 0
  | none => pure 0

/-- A decimal with its sign. -/
def readDecimal : Reader (Bool × Decimal) := do
  let negative ← readSign
  let whole ← Reader.span Char.isDigit
  let part ← if ← Reader.accept ['.'] then Reader.span Char.isDigit else pure []
  if whole.isEmpty && part.isEmpty then failure
  let exponent ← readExponent
  pure (negative, ⟨digits 10 (whole ++ part), exponent - part.length⟩)

end Colloquy.Number
