import Colloquy.Font.Fault
import Colloquy.Render.Backend

/-!
# Faults of drawn text

Drawing text fails when its font cannot be used, when a glyph is not in the
font, or when the backend refuses something.
-/

namespace Colloquy.Typeset

/-- Why text is not drawn. -/
inductive Fault where
  /-- The font cannot be used. -/
  | font (fault : Font.Fault)
  /-- A glyph is not in the font. -/
  | glyphIndex (index : Nat)
  /-- The backend refuses. -/
  | backend (fault : Render.BackendFault)
deriving Repr, DecidableEq, Inhabited

/-- The fault in words. -/
def Fault.message : Fault → String
  | font fault => "Failed to load font: " ++ fault.text
  | glyphIndex index => s!"Glyph index {index} out of range for font face"
  | backend fault => fault.message

end Colloquy.Typeset
