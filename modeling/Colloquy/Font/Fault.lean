/-!
# Faults of a font

Why a font cannot be used.  A font is loaded twice, once for the outlines of
its glyphs and once for shaping, and each of the two has its own faults.
-/

namespace Colloquy.Font

/-- The tables of a font. -/
inductive Table where
  /-- The font as a whole. -/
  | head
  /-- The layout of lines. -/
  | hhea
  /-- The number of glyphs. -/
  | maxp
  /-- The glyphs of characters. -/
  | cmap
  /-- The advances of glyphs. -/
  | hmtx
  /-- The outlines of glyphs. -/
  | glyf
  /-- Where the outlines of glyphs are. -/
  | loca
  /-- The pairs of glyphs that are moved. -/
  | kern
  /-- The ligatures. -/
  | gsub
deriving Repr, DecidableEq, Inhabited

namespace Table

/-- The tag of a table. -/
def tag : Table → String
  | head => "head"
  | hhea => "hhea"
  | maxp => "maxp"
  | cmap => "cmap"
  | hmtx => "hmtx"
  | glyf => "glyf"
  | loca => "loca"
  | kern => "kern"
  | gsub => "GSUB"

/-- The tables a font has to have, in the order in which they are looked at. -/
def required : List Table := [head, hhea, maxp]

/-- The tables a font does without. -/
def optional : List Table := [cmap, hmtx, glyf, loca, kern, gsub]

/-- The table with a tag. -/
def ofTag? (tag : String) : Option Table :=
  (required ++ optional).find? fun table => table.tag == tag

end Table

/-- Why a font cannot be used. -/
inductive Fault where
  /-- The data does not start as a font does. -/
  | badMagic
  /-- The data ends too early. -/
  | truncated
  /-- The data is a collection without fonts. -/
  | emptyCollection
  /-- A table is missing or holds what it must not hold. -/
  | badTable (table : Table)
  /-- A character is mapped to a glyph outside the font. -/
  | unmappable
  /-- The shaper can make nothing of the data. -/
  | noFace
deriving Repr, DecidableEq, Inhabited

/-- The fault in words. -/
def Fault.text : Fault → String
  | .badMagic =>
      "fontdue error: Face data must start with 0x00010000, 0x74727565, 0x4F54544F or 0x74746366."
  | .truncated => "fontdue error: An attempt to read out of bounds detected."
  | .emptyCollection =>
      "fontdue error: The face index is larger than the number of faces in the font."
  | .badTable table => "fontdue error: The " ++ table.tag ++ " table is missing or malformed."
  | .unmappable => "fontdue error: Attempted to map a codepoint out of bounds."
  | .noFace => "not a TrueType/OpenType face"

end Colloquy.Font
