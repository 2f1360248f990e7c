import Colloquy.Font.Directory

/-!
# Font faces

A face lists its glyphs, with advances and outlines in font units, and says
which characters they stand for, how glyphs join and how pairs of them are
moved together.  An outline is a filled rectangle or nothing.  The glyph with
index zero stands for every character the face does not know.

A face holds these things in tables, and tables can be missing.  Without `head`,
`hhea`, `maxp` or any glyph there is no face.  Without one of the others nothing
of what it holds is known.

Font data is a face or bytes that are none.  The outlines of a face and its
shaping are loaded apart.  Outlines are refused with the first fault found.
Shaping says no more than that there is no face, and it does not look where
characters are mapped to.
-/

namespace Colloquy.Font

/-- A filled rectangle in font units, up being positive. -/
structure Box where
  /-- The left edge. -/
  left : Int
  /-- The lower edge. -/
  bottom : Int
  /-- The right edge. -/
  right : Int
  /-- The upper edge. -/
  top : Int
deriving Repr, DecidableEq, Inhabited

/-- The rectangle between two corners that face each other. -/
def Box.ofCorners (x y x' y' : Int) : Box := ⟨min x x', min y y', max x x', max y y'⟩

/-- A glyph of a face. -/
structure FaceGlyph where
  /-- How far the pen goes right after it. -/
  advance : Nat
  /-- The outline. -/
  box : Option Box := none
  /-- The character it stands for. -/
  char : Option Char := none
deriving Repr, DecidableEq, Inhabited

/-- Glyphs that become one. -/
structure Ligature where
  /-- The glyphs. -/
  parts : List Nat
  /-- The glyph they become. -/
  whole : Nat
deriving Repr, DecidableEq, Inhabited

/-- Two glyphs that are moved together or apart. -/
structure KernPair where
  /-- The glyph on the left. -/
  left : Nat
  /-- The glyph on the right. -/
  right : Nat
  /-- By how much they are moved apart. -/
  value : Int
deriving Repr, DecidableEq, Inhabited

/-- A font face. -/
structure Face where
  /-- How many units the size of the font has. -/
  unitsPerEm : Nat
  /-- The glyphs. -/
  glyphs : List FaceGlyph
  /-- The pairs that are moved. -/
  kern : List KernPair := []
  /-- The ligatures, in the order they are tried. -/
  ligatures : List Ligature := []
  /-- More characters with the indices of their glyphs. -/
  extra : List (Char × Nat) := []
  /-- The tables that are missing. -/
  missing : List Table := []
deriving Repr, DecidableEq, Inhabited

/-- The data of a font. -/
inductive Data where
  /-- Bytes that are no face. -/
  | bytes (bs : List UInt8)
  /-- A face. -/
  | face (face : Face)
deriving Repr, DecidableEq, Inhabited

namespace Face

/-- The glyph with an index. -/
def glyph? (f : Face) (index : Nat) : Option FaceGlyph := f.glyphs[index]?

/-- Whether a table is missing. -/
def lacks (f : Face) (table : Table) : Bool := f.missing.contains table

/-- The advance of a glyph that the face tells. -/
def advance? (f : Face) (index : Nat) : Option Nat :=
  if f.lacks .hmtx then none else (f.glyph? index).map FaceGlyph.advance

/-- The outline of a glyph. -/
def outline? (f : Face) (index : Nat) : Option Box :=
  if f.lacks .glyf || f.lacks .loca then none else (f.glyph? index).bind FaceGlyph.box

/-- The characters with the indices of their glyphs.  Of two entries for a
character the last one counts. -/
def charMap (f : Face) : List (Char × Nat) :=
  if f.lacks .cmap then []
  else f.glyphs.zipIdx.filterMap (fun (g, i) => g.char.map fun c => (c, i)) ++ f.extra

/-- The glyph of a character. -/
def indexOf (f : Face) (c : Char) : Nat := (f.charMap.reverse.lookup c).getD 0

/-- Whether a glyph stands for something. -/
def isMapped (f : Face) (index : Nat) : Bool :=
  index == 0 || f.charMap.any fun (c, _) => f.indexOf c == index

/-- Whether what a table holds is as it has to be. -/
def accepts (f : Face) : Table → Bool
  | .head => isUnitCount f.unitsPerEm
  | .maxp => !f.glyphs.isEmpty
  | _ => true

/-- The first table that is missing or malformed. -/
def badTable? (f : Face) : Option Table :=
  Table.required.find? fun table => f.lacks table || !f.accepts table

end Face

namespace Data

/-- The face of font data, as far as outlines are concerned. -/
def outlines : Data → Except Fault Face
  | bytes bs => .error (fileFault bs)
  | face f =>
      match f.badTable? with
      | some table => .error (.badTable table)
      | none =>
          if f.charMap.any fun (c, _) => f.glyphs.length ≤ f.indexOf c then .error .unmappable
          else .ok f

/-- The face of font data, as far as shaping is concerned. -/
def shaping : Data → Except Fault Face
  | bytes _ => .error .noFace
  | face f => if f.badTable?.isSome then .error .noFace else .ok f

end Data

end Colloquy.Font
