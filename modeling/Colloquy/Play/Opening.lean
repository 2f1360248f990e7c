import Colloquy.Asset.Library
import Colloquy.Play.Mode

/-!
# Opening a play mode

A play mode is opened from a library of assets: the scene, the sound samples,
the font and the script that the settings name, in this order.  The text engine
is built once the font is there.  Where a later step fails, the engine is shut
down again, so a play mode that does not open leaves nothing in the backend.
-/

namespace Colloquy.Play

open Colloquy.Render Colloquy.Typeset

namespace Mode

variable {B α : Type} [Backend B α]

/-- The failed opening of a play mode whose engine was built. -/
def abandon (e : Engine B α) (fault : Fault) :
    Logged (Except (Fault × B) (Mode (Engine B α) α)) := do
  let backend ← e.close
  pure (.error (fault, backend))

/-- The play mode of an engine and a scene, with the script still to be loaded. -/
def openScript (lib : Asset.Library) (settings : Settings α) (scene : Asset.Scene)
    (samples : List Asset.Sample) (e : Engine B α) :
    Logged (Except (Fault × B) (Mode (Engine B α) α)) := do
  let path := lib.path settings.script
  match ← Script.load path (lib.readText path) with
  | .error fault => abandon e (.script fault)
  | .ok graph => do
      match ← ofParts settings e graph scene samples with
      | .error fault => abandon e fault
      | .ok mode => pure (.ok mode)

/-- The play mode that settings describe, over a backend.  Fonts are loaded by
`load`.  A failure comes with the backend. -/
def ofAssets (lib : Asset.Library) (load : Font.Data → Nat → Except Font.Fault (LoadedFont α))
    (backend : B) (settings : Settings α) :
    Logged (Except (Fault × B) (Mode (Engine B α) α)) := do
  match ← lib.scene settings.scene with
  | .error fault => pure (.error (.asset fault, backend))
  | .ok scene => do
      match ← lib.samples settings.samples with
      | .error fault => pure (.error (.asset fault, backend))
      | .ok samples => do
          match ← lib.read settings.font with
          | .error fault => pure (.error (.asset fault, backend))
          | .ok data => do
              match ← Engine.build backend (load data settings.pixels) settings.pixels with
              | .error (fault, backend) => pure (.error (.text fault, backend))
              | .ok e => openScript lib settings scene samples e

/-- The end of a play mode, which leaves its backend. -/
def close (m : Mode (Engine B α) α) : Logged B := m.surface.close

end Mode

end Colloquy.Play
