import Colloquy.Dialogue.Gating
import Colloquy.Play.Layout
import Colloquy.Render.Quad

/-!
# Settings

What a play mode can be told: the names of its assets, the size of its font,
the distances of its layout, its colours and its gating rules.  Everything has
a standard value.
-/

namespace Colloquy

/-- The colours of a play mode. -/
structure Palette where
  /-- The background. -/
  clear : Render.Rgba := ⟨⟨0.96, 0.87, 0.70⟩, 1.0⟩
  /-- The body of a node. -/
  body : Render.Rgb := ⟨0.0, 0.0, 0.0⟩
  /-- The selected choice. -/
  selected : Render.Rgb := ⟨0.8, 0.1, 0.1⟩
  /-- The other choices. -/
  choice : Render.Rgb := ⟨0.0, 0.0, 0.0⟩
  /-- The message in place of a missing node. -/
  missing : Render.Rgb := ⟨1.0, 0.4, 0.4⟩
deriving Repr, DecidableEq, Inhabited

/-- The colour of a choice. -/
def Palette.ofChoice (p : Palette) (isSelected : Bool) : Render.Rgb :=
  if isSelected then p.selected else p.choice

/-- The settings of a play mode. -/
structure Settings (α : Type) where
  /-- The name of the scene. -/
  scene : String := "hexapod.scene"
  /-- The names of the sound samples. -/
  samples : List String := ["dusty-floor.opus", "honk.wav"]
  /-- The name of the font. -/
  font : String := "PlayfairDisplay-VariableFont_wght.ttf"
  /-- The size of the font in pixels. -/
  pixels : Nat := 32
  /-- The name of the script. -/
  script : String := "dialogues.txt"
  /-- Whether the script is checked. -/
  check : Bool := true
  /-- The distances of the layout. -/
  metrics : Play.Metrics α
  /-- The colours. -/
  palette : Palette := {}
  /-- The gating rules. -/
  gating : Dialogue.Gating := {}
deriving Repr, DecidableEq, Inhabited

/-- The standard distances. -/
def Play.Metrics.standard : Play.Metrics Float32 := ⟨64.0, 64.0, 100.0, 42.0, 30.0, 28.0⟩

/-- The standard settings. -/
def Settings.standard : Settings Float32 := { metrics := .standard }

end Colloquy
