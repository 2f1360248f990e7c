import Colloquy.Typeset.Fault

/-!
# The glyph cache

A glyph becomes a texture the first time it is drawn.  From then on the texture
is used again, until all textures are released together.  A glyph that is not
in the font, or whose bitmap the backend refuses, leaves the cache as it was.
-/

namespace Colloquy.Typeset

open Colloquy.Render

/-- A glyph as pixels. -/
structure Raster (α : Type) where
  /-- The pixels. -/
  bitmap : Bitmap
  /-- How far right of the pen the left edge is. -/
  bearingX : Int32
  /-- How far above the baseline the upper edge is. -/
  bearingY : Int32
  /-- How far the pen goes right after it. -/
  advance : α
deriving Repr, DecidableEq, Inhabited

/-- The glyphs of a font at one size. -/
structure Rasterizer (α : Type) where
  /-- The number of glyphs. -/
  count : Nat
  /-- The pixels of a glyph. -/
  raster : Nat → Raster α

/-- A glyph as a texture. -/
structure GlyphTexture (α : Type) where
  /-- The texture. -/
  texture : Handle .texture
  /-- Its width in pixels. -/
  width : Nat
  /-- Its height in pixels. -/
  height : Nat
  /-- How far right of the pen the left edge is. -/
  bearingX : Int32
  /-- How far above the baseline the upper edge is. -/
  bearingY : Int32
  /-- How far the pen goes right after it. -/
  advance : α
deriving Repr, DecidableEq, Inhabited

/-- A raster whose pixels are a texture. -/
def Raster.onTexture {α : Type} (r : Raster α) (texture : Handle .texture) : GlyphTexture α :=
  ⟨texture, r.bitmap.width, r.bitmap.height, r.bearingX, r.bearingY, r.advance⟩

/-- The textures of the glyphs drawn so far. -/
structure GlyphCache (α : Type) where
  /-- The glyphs of the font. -/
  rasterizer : Rasterizer α
  /-- The textures with the indices of their glyphs, the first one in front. -/
  entries : List (Nat × GlyphTexture α) := []

namespace GlyphCache

variable {α B : Type} [Backend B α]

/-- The texture of a glyph that has been drawn. -/
def get? (cache : GlyphCache α) (index : Nat) : Option (GlyphTexture α) :=
  cache.entries.lookup index

/-- Whether a glyph has been drawn. -/
def contains (cache : GlyphCache α) (index : Nat) : Bool := (cache.get? index).isSome

/-- How many glyphs have been drawn. -/
def size (cache : GlyphCache α) : Nat := cache.entries.length

/-- Whether a glyph has to be made into pixels before it is drawn. -/
def needs (cache : GlyphCache α) (index : Nat) : Bool :=
  !cache.contains index && index < cache.rasterizer.count

/-- The texture of a glyph, made where there is none yet. -/
def fetch (cache : GlyphCache α) (backend : B) (index : Nat) :
    Logged (Except Fault (GlyphTexture α) × GlyphCache α × B) :=
  match cache.get? index with
  | some entry => pure (.ok entry, cache, backend)
  | none =>
      if index < cache.rasterizer.count then do
        let raster := cache.rasterizer.raster index
        let (answer, backend) ← Backend.perform backend (.upload raster.bitmap)
        match answer with
        | .error fault => pure (.error (.backend fault), cache, backend)
        | .ok texture => do
            Logged.say (.glyphRasterized index raster.bitmap.width raster.bitmap.height)
            let entry := raster.onTexture texture
            pure (.ok entry, { cache with entries := cache.entries ++ [(index, entry)] }, backend)
      else pure (.error (.glyphIndex index), cache, backend)

/-- A backend after releasing the textures of entries. -/
def dropTextures (backend : B) : List (Nat × GlyphTexture α) → Logged B
  | [] => pure backend
  | (_, entry) :: rest => do
      let (_, backend) ← Backend.perform backend (.dropTexture entry.texture)
      dropTextures backend rest

/-- All textures released, and how many there were. -/
def release (cache : GlyphCache α) (backend : B) : Logged (Nat × GlyphCache α × B) := do
  let backend ← dropTextures backend cache.entries
  pure (cache.size, { cache with entries := [] }, backend)

end GlyphCache

end Colloquy.Typeset
