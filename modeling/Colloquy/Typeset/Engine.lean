import Colloquy.Typeset.Glyph
import Colloquy.Typeset.GlyphCache

/-!
# The text engine

An engine draws shaped text through a backend it owns.  It holds a program, a
buffer and a font with the textures of its glyphs.  It gives all of them back
when it is shut down, the textures first and the program last.  After that it
draws nothing and refuses nothing.

An engine is built in three steps: the program, the buffer, the font.  Where
one of them fails, what was made before is given back.
-/

namespace Colloquy.Typeset

open Colloquy.Render

/-- A font at one size: how it shapes text and what its glyphs look like. -/
structure LoadedFont (α : Type) where
  /-- The glyphs of a text, in the order they are drawn. -/
  shape : String → List Glyph
  /-- The pixels of the glyphs. -/
  rasterizer : Rasterizer α

/-- The font of an engine and the glyphs drawn so far. -/
structure FontInUse (α : Type) where
  /-- The font. -/
  font : LoadedFont α
  /-- The glyphs drawn so far. -/
  cache : GlyphCache α

/-- A text engine. -/
structure Engine (B α : Type) where
  /-- The backend. -/
  backend : B
  /-- The program, until the engine is shut down. -/
  program : Option (Handle .program) := none
  /-- The buffer, until the engine is shut down. -/
  buffer : Option (Handle .buffer) := none
  /-- The font, until the engine is shut down. -/
  font : Option (FontInUse α) := none
  /-- The screen size of the last pass. -/
  screen : Nat × Nat := (0, 0)

/-- The program that places the corners of quads.  The origin of the screen is
its top left corner. -/
def vertexShader : String :=
  "#version 330\n" ++
  "layout(location=0) in vec2 aPos;\n" ++
  "layout(location=1) in vec2 aUV;\n" ++
  "out vec2 vUV;\n" ++
  "uniform vec2 uScreen;\n" ++
  "void main() \x7b\n" ++
  "    vUV = aUV;\n" ++
  "    float x = (aPos.x / uScreen.x) * 2.0 - 1.0;\n" ++
  "    float y = 1.0 - (aPos.y / uScreen.y) * 2.0;\n" ++
  "    gl_Position = vec4(x, y, 0.0, 1.0);\n" ++
  "\x7d\n"

/-- The program that tints the pixels of quads.  The opacity of a pixel is its
red channel. -/
def fragmentShader : String :=
  "#version 330\n" ++
  "in vec2 vUV;\n" ++
  "out vec4 FragColor;\n" ++
  "uniform sampler2D uTex;\n" ++
  "uniform vec3 uColor;\n" ++
  "void main() \x7b\n" ++
  "    FragColor = vec4(uColor, texture(uTex, vUV).r);\n" ++
  "\x7d\n"

namespace Engine

variable {B α : Type} [Backend B α]

/-- The font and its textures given back. -/
def dropFont (e : Engine B α) : Logged (Engine B α) :=
  match e.font with
  | none => pure e
  | some font => do
      let (count, _, backend) ← font.cache.release e.backend
      Logged.say (.glyphsReleased count)
      pure { e with backend, font := none }

/-- The buffer given back. -/
def dropBuffer (e : Engine B α) : Logged (Engine B α) :=
  match e.buffer with
  | none => pure e
  | some h => do
      let (_, backend) ← Backend.perform e.backend (.dropBuffer h)
      pure { e with backend, buffer := none }

/-- The program given back. -/
def dropProgram (e : Engine B α) : Logged (Engine B α) :=
  match e.program with
  | none => pure e
  | some h => do
      let (_, backend) ← Backend.perform e.backend (.dropProgram h)
      pure { e with backend, program := none }

/-- Everything given back. -/
def shutdown (e : Engine B α) : Logged (Engine B α) := do
  let e ← e.dropFont
  let e ← e.dropBuffer
  e.dropProgram

/-- The end of an engine, which leaves its backend. -/
def close (e : Engine B α) : Logged B := do
  let e ← e.shutdown
  pure e.backend

/-- Whether the engine is shut down. -/
def isShutDown (e : Engine B α) : Bool := e.program.isNone

/-- How many glyphs have textures. -/
def cachedGlyphs (e : Engine B α) : Nat := e.font.elim 0 fun font => font.cache.size

/-- The failed building of an engine, which leaves its backend. -/
def abandon (e : Engine B α) (fault : Fault) : Logged (Except (Fault × B) (Engine B α)) := do
  let backend ← e.close
  pure (.error (fault, backend))

/-- An engine over a backend, given the outcome of loading a font at a size in
pixels.  A failure comes with the backend. -/
def build (backend : B) (font : Except Font.Fault (LoadedFont α)) (pixels : Nat) :
    Logged (Except (Fault × B) (Engine B α)) := do
  let e : Engine B α := { backend }
  let (program, backend) ← Backend.perform e.backend (.compile vertexShader fragmentShader)
  let e := { e with backend }
  match program with
  | .error fault => e.abandon (.backend fault)
  | .ok h =>
      let e := { e with program := some h }
      let (buffer, backend) ← Backend.perform e.backend .makeBuffer
      let e := { e with backend }
      match buffer with
      | .error fault => e.abandon (.backend fault)
      | .ok h =>
          let e := { e with buffer := some h }
          match font with
          | .error fault => e.abandon (.font fault)
          | .ok font =>
              Logged.say (.fontLoaded pixels)
              pure (.ok { e with font := some ⟨font, { rasterizer := font.rasterizer }⟩ })

/-- The screen filled. -/
def clear (e : Engine B α) (color : Rgba) : Logged (Engine B α) := do
  let (_, backend) ← Backend.perform e.backend (.clear color)
  pure { e with backend }

/-- A pass started. -/
def start (e : Engine B α) (width height : Nat) : Logged (Except Fault Unit × Engine B α) :=
  let e := { e with screen := (width, height) }
  match e.program with
  | none => pure (.ok (), e)
  | some program => do
      let (answer, backend) ← Backend.perform e.backend (.start program width height)
      pure (answer.mapError Fault.backend, { e with backend })

/-- The pass ended. -/
def finish (e : Engine B α) : Logged (Engine B α) :=
  match e.program with
  | none => pure e
  | some _ => do
      let (_, backend) ← Backend.perform e.backend .finish
      pure { e with backend }

section Draw

variable [Add α] [Sub α] [Div α] [NatCast α] [IntCast α]

/-- Where a glyph is drawn with the pen at a place. -/
def place (glyph : Glyph) (texture : GlyphTexture α) (penX penY : α) : Quad α :=
  Quad.ofSize
    (penX + pixels glyph.xOffset + ((texture.bearingX.toInt : Int) : α))
    (penY - pixels glyph.yOffset - ((texture.bearingY.toInt : Int) : α))
    ((texture.width : Nat) : α) ((texture.height : Nat) : α)

/-- Glyphs drawn one after the other, the pen starting at a place.  A glyph
outside the font is skipped, and the pen stays.  A glyph without pixels moves
the pen only. -/
def drawGlyphs (buffer : Handle .buffer) (color : Rgb) (cache : GlyphCache α) (backend : B)
    (penX penY : α) : List Glyph → Logged (Except Fault Unit × GlyphCache α × B)
  | [] => pure (.ok (), cache, backend)
  | glyph :: rest => do
      let (answer, cache, backend) ← cache.fetch backend glyph.id.toNat
      match answer with
      | .error (.glyphIndex index) => do
          Logged.say (.glyphSkipped index)
          drawGlyphs buffer color cache backend penX penY rest
      | .error fault => pure (.error fault, cache, backend)
      | .ok texture =>
          let penX' := penX + pixels glyph.xAdvance
          let penY' := penY + pixels glyph.yAdvance
          if texture.width = 0 ∨ texture.height = 0 then
            drawGlyphs buffer color cache backend penX' penY' rest
          else do
            let quad := place glyph texture penX penY
            let (answer, backend) ←
              Backend.perform backend (.draw buffer texture.texture quad color)
            match answer with
            | .error fault => pure (.error (.backend fault), cache, backend)
            | .ok () => drawGlyphs buffer color cache backend penX' penY' rest

/-- A text drawn in a colour, the pen starting at a place. -/
def drawText (e : Engine B α) (text : String) (x baseline : α) (color : Rgb) :
    Logged (Except Fault Unit × Engine B α) :=
  match e.font, e.buffer with
  | some font, some buffer => do
      let (answer, cache, backend) ←
        drawGlyphs buffer color font.cache e.backend x baseline (font.font.shape text)
      pure (answer, { e with backend, font := some { font with cache } })
  | _, _ => pure (.ok (), e)

end Draw

/-- The clusters of a text.  There are none once the engine is shut down. -/
def shaper [Div α] [NatCast α] [IntCast α] (e : Engine B α) : Shaper α := fun text =>
  match e.font with
  | none => []
  | some font => clustersOfGlyphs text (font.font.shape text)

end Engine

end Colloquy.Typeset
