import Colloquy.Render.Backend
import Colloquy.Render.Slots
import Colloquy.Text.Blank

/-!
# The headless backend

A backend that keeps its resources in memory and writes down what it is asked
to draw.  Nothing it refuses changes it.  It does not ask whether a pass is
already open, so passes may start twice and end without having started.
-/

namespace Colloquy.Render

/-- Something a headless backend was asked to draw. -/
inductive Command (α : Type) where
  /-- The screen filled. -/
  | clear (color : Rgba)
  /-- A pass started. -/
  | start (program : Handle .program) (width height : Nat)
  /-- A quad drawn. -/
  | quad (texture : Handle .texture) (quad : Quad α) (color : Rgb)
  /-- A pass ended. -/
  | finish
deriving Repr, DecidableEq, Inhabited

/-- A backend in memory. -/
structure Headless (α : Type) where
  /-- The programs. -/
  programs : Slots .program Unit := {}
  /-- The buffers. -/
  buffers : Slots .buffer Unit := {}
  /-- The textures. -/
  textures : Slots .texture Bitmap := {}
  /-- The commands written down, in order. -/
  commands : List (Command α) := []
  /-- The program of the open pass. -/
  active : Option (Handle .program) := none
deriving Repr, DecidableEq, Inhabited

/-- Whether a command draws a quad. -/
def Command.isQuad {α : Type} : Command α → Bool
  | quad _ _ _ => true
  | _ => false

/-- File name endings of the picture format a texture is exported in. -/
def pictureEndings : List (List Char) := [['p', 'n', 'g'], ['a', 'p', 'n', 'g']]

namespace Headless

variable {α : Type}

/-- One more command written down. -/
def record (b : Headless α) (c : Command α) : Headless α :=
  { b with commands := b.commands ++ [c] }

/-- A program of two sources, of which none is blank. -/
def compile (b : Headless α) (vertex fragment : String) :
    Except BackendFault (Handle .program) × Headless α :=
  if Text.isAllBlank vertex.toList || Text.isAllBlank fragment.toList then
    (.error (.compile .emptySource), b)
  else
    let (h, programs) := b.programs.insert ()
    (.ok h, { b with programs })

/-- A texture of a bitmap. -/
def upload (b : Headless α) (bitmap : Bitmap) :
    Except BackendFault (Handle .texture) × Headless α :=
  if bitmap.fits then
    let (h, textures) := b.textures.insert bitmap
    (.ok h, { b with textures })
  else
    (.error (.resource (.bitmapSize bitmap.pixels.length bitmap.width bitmap.height)), b)

/-- Slots after a release, with a notice where there is nothing to release. -/
def release {kind : Kind} {β : Type} (s : Slots kind β) (h : Handle kind) :
    Logged (Slots kind β) :=
  match s.remove? h with
  | some s => pure s
  | none => do
      Logged.say (.unknownResource kind h.number)
      pure s

/-- A pass started with a program that is there. -/
def start (b : Headless α) (program : Handle .program) (width height : Nat) :
    Except BackendFault Unit × Headless α :=
  if b.programs.contains program then
    (.ok (), { b with active := some program }.record (.start program width height))
  else (.error (.invalidHandle program.number), b)

/-- A quad drawn in a pass, with a buffer and a texture that are there. -/
def draw (b : Headless α) (buffer : Handle .buffer) (texture : Handle .texture)
    (quad : Quad α) (color : Rgb) : Except BackendFault Unit × Headless α :=
  if b.active.isNone then (.error .noActivePass, b)
  else if !b.buffers.contains buffer then (.error (.invalidHandle buffer.number), b)
  else if !b.textures.contains texture then (.error (.invalidHandle texture.number), b)
  else (.ok (), b.record (.quad texture quad color))

/-- The answer to a request. -/
def perform (b : Headless α) : (r : Request α) → Logged (r.Answer × Headless α)
  | .compile vertex fragment => pure (b.compile vertex fragment)
  | .dropProgram h => do
      let programs ← release b.programs h
      pure ((), { b with programs })
  | .makeBuffer =>
      let (h, buffers) := b.buffers.insert ()
      pure (.ok h, { b with buffers })
  | .dropBuffer h => do
      let buffers ← release b.buffers h
      pure ((), { b with buffers })
  | .upload bitmap => pure (b.upload bitmap)
  | .dropTexture h => do
      let textures ← release b.textures h
      pure ((), { b with textures })
  | .clear color => pure ((), b.record (.clear color))
  | .start program width height => pure (b.start program width height)
  | .draw buffer texture quad color => pure (b.draw buffer texture quad color)
  | .finish => pure ((), { b with active := none }.record .finish)

instance : Backend (Headless α) α := ⟨perform⟩

/-- The commands written down, and the backend without them. -/
def take (b : Headless α) : List (Command α) × Headless α :=
  (b.commands, { b with commands := [] })

/-- How many quads are written down. -/
def quadCount (b : Headless α) : Nat := b.commands.countP Command.isQuad

/-- How many programs, buffers and textures there are. -/
def live (b : Headless α) : Nat × Nat × Nat :=
  (b.programs.live, b.buffers.live, b.textures.live)

/-- The folder that pictures are written to. -/
def pictureFolder : Files.Folder Bitmap := { name := "png" }

/-- The picture written to the file at a path in the folder of pictures. -/
def exportPicture (b : Headless α) (texture : Handle .texture) (name : String) :
    Except BackendFault Bitmap :=
  match b.textures.get? texture with
  | none => .error (.invalidHandle texture.number)
  | some bitmap =>
      match Files.extension? name.toList with
      | none => .error (.exported .unknownFormat)
      | some ending =>
          if ending.map Char.toLower ∉ pictureEndings then .error (.exported .unknownFormat)
          else if bitmap.width = 0 ∨ bitmap.height = 0 then .error (.exported .noPixels)
          else
            match pictureFolder.write (Files.join pictureFolder.name name) bitmap with
            | .error fault => .error (.exported (.unwritable fault))
            | .ok _ => .ok bitmap

end Headless

end Colloquy.Render
