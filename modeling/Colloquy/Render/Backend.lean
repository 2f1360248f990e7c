import Colloquy.Files.Folder
import Colloquy.Logged
import Colloquy.Render.Handle
import Colloquy.Render.Quad

/-!
# Render backends

A backend answers requests.  Some make a resource and answer with its handle,
some release one, and the others draw.  Drawing happens in a pass, which starts
with a program and a screen size and has to be ended.

A backend is anything with a state and an answer to each request.  The answer's
type depends on the request.
-/

namespace Colloquy.Render

/-- A picture with one byte for each pixel, row after row. -/
structure Bitmap where
  /-- The width in pixels. -/
  width : Nat
  /-- The height in pixels. -/
  height : Nat
  /-- The pixels. -/
  pixels : List UInt8
deriving Repr, DecidableEq, Inhabited

/-- Whether a bitmap has as many pixels as its size says. -/
def Bitmap.fits (b : Bitmap) : Bool := b.pixels.length == b.width * b.height

/-- Why a program is not compiled. -/
inductive CompileCause where
  /-- One of the sources is blank. -/
  | emptySource
  /-- The backend refuses, for a reason of its own. -/
  | refused (reason : String)
deriving Repr, DecidableEq, Inhabited

/-- The cause in words. -/
def CompileCause.text : CompileCause → String
  | .emptySource => "empty shader source"
  | .refused reason => reason

/-- Why a resource is not made. -/
inductive ResourceCause where
  /-- A bitmap has not as many bytes as its size says. -/
  | bitmapSize (bytes width height : Nat)
  /-- The backend refuses, for a reason of its own. -/
  | refused (reason : String)
deriving Repr, DecidableEq, Inhabited

/-- Why a texture is not exported. -/
inductive ExportCause where
  /-- The file name has no ending that names a known format. -/
  | unknownFormat
  /-- The file cannot be written. -/
  | unwritable (fault : Files.ReadFault)
  /-- The texture has no pixels. -/
  | noPixels
deriving Repr, DecidableEq, Inhabited

/-- Why a backend refuses a request. -/
inductive BackendFault where
  /-- A program is not compiled. -/
  | compile (cause : CompileCause)
  /-- A resource is not made. -/
  | resource (cause : ResourceCause)
  /-- A handle has no resource. -/
  | invalidHandle (number : Nat)
  /-- A quad is drawn outside a pass. -/
  | noActivePass
  /-- A texture is not exported. -/
  | exported (cause : ExportCause)
deriving Repr, DecidableEq, Inhabited

namespace BackendFault

/-- The fault in words. -/
def message : BackendFault → String
  | compile cause => "Shader compilation failed: " ++ cause.text
  | resource (.bitmapSize bytes width height) =>
      s!"Resource creation failed: glyph bitmap has {bytes} bytes, expected {width}x{height}"
  | resource (.refused reason) => "Resource creation failed: " ++ reason
  | invalidHandle number => s!"Invalid handle: {number}"
  | noActivePass => "No text pass in progress"
  | exported .unknownFormat => "Texture export failed: unknown image format"
  | exported (.unwritable fault) => "Texture export failed: " ++ fault.text
  | exported .noPixels => "Texture export failed: empty image"

end BackendFault

/-- What a backend can be asked. -/
inductive Request (α : Type) where
  /-- Make a program of two shader sources. -/
  | compile (vertex fragment : String)
  /-- Release a program. -/
  | dropProgram (program : Handle .program)
  /-- Make a buffer for quads. -/
  | makeBuffer
  /-- Release a buffer. -/
  | dropBuffer (buffer : Handle .buffer)
  /-- Make a texture of a bitmap. -/
  | upload (bitmap : Bitmap)
  /-- Release a texture. -/
  | dropTexture (texture : Handle .texture)
  /-- Fill the screen. -/
  | clear (color : Rgba)
  /-- Start a pass. -/
  | start (program : Handle .program) (width height : Nat)
  /-- Draw a textured quad in a colour. -/
  | draw (buffer : Handle .buffer) (texture : Handle .texture) (quad : Quad α) (color : Rgb)
  /-- End the pass. -/
  | finish
deriving Repr, DecidableEq, Inhabited

/-- What a request is answered with. -/
@[reducible] def Request.Answer {α : Type} : Request α → Type
  | compile _ _ => Except BackendFault (Handle .program)
  | makeBuffer => Except BackendFault (Handle .buffer)
  | upload _ => Except BackendFault (Handle .texture)
  | start _ _ _ | draw _ _ _ _ => Except BackendFault Unit
  | dropProgram _ | dropBuffer _ | dropTexture _ | clear _ | finish => Unit

/-- A state that answers requests. -/
class Backend (B : Type) (α : outParam Type) where
  /-- The answer to a request, and the state after it. -/
  perform : B → (r : Request α) → Logged (r.Answer × B)

end Colloquy.Render
