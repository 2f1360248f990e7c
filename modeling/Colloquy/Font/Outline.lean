import Colloquy.Font.Shaping
import Colloquy.Typeset.Engine

/-!
# Glyphs of a face as pixels

At a size of `p` pixels a font unit is `p / unitsPerEm` pixels.  A glyph is its
rectangle, filled.  Rectangles fall on whole pixels, and no others are drawn.
A rectangle without height encloses nothing and is no outline, while one without
width still has its place.

A glyph that stands for no character is never drawn and has no advance.
-/

namespace Colloquy.Font

open Colloquy.Render Colloquy.Typeset

namespace Face

/-- A number of font units in whole pixels. -/
def toPixels (f : Face) (size : Nat) (units : Int) : Int := units * size / f.unitsPerEm

/-- The pixels of a rectangle, with its left and upper edges. -/
def fill (f : Face) (size : Nat) (box : Box) : Bitmap × Int32 × Int32 :=
  let width := (f.toPixels size (box.right - box.left)).toNat
  let height := (f.toPixels size (box.top - box.bottom)).toNat
  (⟨width, height, List.replicate (width * height) 255⟩,
    Int32.ofInt (f.toPixels size box.left), Int32.ofInt (f.toPixels size box.top))

/-- How far the pen goes right after a glyph, in pixels.  It stays after a glyph
whose advance is not known. -/
def advancePixels (f : Face) (size index : Nat) : Float32 :=
  ((size : Nat) : Float32) / ((f.unitsPerEm : Nat) : Float32) *
    (((f.advance? index).getD 0 : Nat) : Float32)

/-- A glyph as pixels at a size. -/
def raster (f : Face) (size index : Nat) : Raster Float32 :=
  if f.isMapped index then
    match (f.outline? index).filter fun box => box.bottom != box.top with
    | none => ⟨⟨0, 0, []⟩, 0, 0, f.advancePixels size index⟩
    | some box =>
        let (bitmap, x, y) := f.fill size box
        ⟨bitmap, x, y, f.advancePixels size index⟩
  else ⟨⟨0, 0, []⟩, 0, 0, 0⟩

/-- The glyphs of a face at a size. -/
def rasterizer (f : Face) (size : Nat) : Rasterizer Float32 := ⟨f.glyphs.length, f.raster size⟩

end Face

/-- The font of some data at a size.  Outlines are loaded before shaping. -/
def Data.load (data : Data) (size : Nat) : Except Fault (LoadedFont Float32) := do
  let outlined ← data.outlines
  let shaped ← data.shaping
  pure ⟨shaped.shape size, outlined.rasterizer size⟩

end Colloquy.Font
