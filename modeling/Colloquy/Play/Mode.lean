import Colloquy.Asset.Camera
import Colloquy.Asset.Sample
import Colloquy.Dialogue.Cursor
import Colloquy.Play.Event
import Colloquy.Play.Surface
import Colloquy.Script.Check
import Colloquy.Script.File
import Colloquy.Settings.Basic

/-!
# The play mode

A play mode leads a player through a dialogue.  It holds the dialogue and the
player's cursor, the surface it draws on, a scene with one camera and the sound
samples of the scene.

Keys move the selection and confirm it.  A left click acts on the choice under
the pointer, and a moving pointer selects it.  Which choice that is, is read off
the layout that is drawn.

A frame fills the surface and starts a pass.  In it the current node is laid out,
and the lines of the layout that are not empty are drawn.  It stops at the first
line that fails, and the pass is ended all the same.
-/

namespace Colloquy.Play

open Colloquy.Typeset (Shaper)

/-- Why a play mode does not go on. -/
inductive Fault where
  /-- The script is not loaded. -/
  | script (fault : Script.LoadFault)
  /-- Text is not drawn. -/
  | text (fault : Typeset.Fault)
  /-- An asset cannot be used. -/
  | asset (fault : Asset.Fault)
deriving Repr, DecidableEq, Inhabited

/-- The fault in words. -/
def Fault.message : Fault → String
  | script fault => "Dialogue error: " ++ fault.message
  | text fault => "Text error: " ++ fault.message
  | asset fault => "Asset error: " ++ fault.message

/-- What is drawn in place of a node that is not there. -/
def missingNodeMessage : String := "Dialogue node not found."

/-- A play mode. -/
structure Mode (S α : Type) where
  /-- The settings. -/
  settings : Settings α
  /-- What is drawn on. -/
  surface : S
  /-- The dialogue. -/
  dialogue : Dialogue
  /-- Where the player is. -/
  cursor : Dialogue.Cursor
  /-- The scene. -/
  scene : Asset.Scene
  /-- The sound samples. -/
  samples : List Asset.Sample
  /-- Whether the window keeps the pointer to itself. -/
  holdsPointer : Bool := true

/-- Says what a check of a graph finds. -/
def sayIssues : List Script.Issue → Logged Unit
  | [] => pure ()
  | issue :: rest => do
      Logged.say (.scriptIssue issue)
      sayIssues rest

namespace Mode

variable {S α : Type}

/-- A play mode of its parts.  The scene needs exactly one camera. -/
def ofParts (settings : Settings α) (surface : S) (graph : Script.Graph) (scene : Asset.Scene)
    (samples : List Asset.Sample) : Logged (Except Fault (Mode S α)) :=
  match scene.single with
  | .error fault => pure (.error (.asset fault))
  | .ok _ => do
      if settings.check then sayIssues (graph.issues settings.gating.endWord)
      let dialogue : Dialogue := ⟨graph, settings.gating⟩
      Logged.say (.playReady samples.length graph.start)
      pure (.ok { settings, surface, dialogue, cursor := dialogue.begin, scene, samples })

section Layout

variable [Surface S α] [Zero α] [Add α] [Sub α] [Mul α] [Div α] [NatCast α] [LE α]
  [DecidableLE α]

/-- The layout of the current node in a viewport. -/
def layout? (m : Mode S α) (viewport : Nat) : Option (Layout α) :=
  (m.dialogue.node? m.cursor).map fun node =>
    Layout.ofNode node (Surface.shaper m.surface) m.settings.metrics viewport m.settings.gating
      m.cursor.key

/-- The choice at a height in a window. -/
def choiceAt? (m : Mode S α) (y : α) (viewport : Nat) : Option Nat :=
  (m.layout? viewport).bind fun layout => layout.choiceAt? y

/-- The mode after an event in a window, and whether the event was consumed. -/
def handle (m : Mode S α) (viewport : Nat) : Event α → Logged (Bool × Mode S α)
  | .key .escape => pure (true, { m with holdsPointer := false })
  | .key .enter => do
      let (_, cursor) ← m.dialogue.confirm m.cursor
      pure (true, { m with cursor })
  | .key .up => pure (true, { m with cursor := m.dialogue.move m.cursor (-1) })
  | .key .down => pure (true, { m with cursor := m.dialogue.move m.cursor 1 })
  | .press .left _ y =>
      match m.choiceAt? y viewport with
      | none => pure (false, m)
      | some index => do
          let (_, cursor) ← m.dialogue.confirm (m.dialogue.select m.cursor index)
          pure (true, { m with cursor })
  | .press _ _ _ => pure (false, m)
  | .motion _ y =>
      match m.choiceAt? y viewport with
      | none => pure (false, m)
      | some index =>
          pure (m.dialogue.hasChoice m.cursor index,
            { m with cursor := m.dialogue.select m.cursor index })

/-- The lines that are not empty, in a colour. -/
def linesToDraw (color : Render.Rgb) (lines : List (Line α)) : List (Line α × Render.Rgb) :=
  (lines.filter fun line => line.text ≠ "").map fun line => (line, color)

/-- The lines a frame draws, in order, with their colours. -/
def frame (m : Mode S α) (viewport : Nat) : List (Line α × Render.Rgb) :=
  let palette := m.settings.palette
  match m.layout? viewport with
  | none =>
      [(⟨missingNodeMessage, m.settings.metrics.marginLeft, m.settings.metrics.startY⟩,
        palette.missing)]
  | some layout =>
      linesToDraw palette.body layout.body ++
      layout.rows.flatMap fun row =>
        linesToDraw (palette.ofChoice (row.index == m.cursor.selected)) row.lines

/-- The lines a frame draws on a surface that is in the pass of the frame. -/
def frameOn (m : Mode S α) (viewport : Nat) (surface : S) : List (Line α × Render.Rgb) :=
  { m with surface }.frame viewport

/-- Lines drawn one after the other, up to the first that fails. -/
def drawLines (surface : S) :
    List (Line α × Render.Rgb) → Logged (Except Typeset.Fault Unit × S)
  | [] => pure (.ok (), surface)
  | (line, color) :: rest => do
      let (answer, surface) ← Surface.drawText surface line.text line.x line.baseline color
      match answer with
      | .error fault => pure (.error fault, surface)
      | .ok () => drawLines surface rest

/-- A frame drawn on a surface: filled, a pass started, the lines, the pass ended.  Which lines
there are is up to the surface in the pass. -/
def drawFrame (surface : S) (clear : Render.Rgba) (width height : Nat)
    (lines : S → List (Line α × Render.Rgb)) : Logged (Except Typeset.Fault Unit × S) := do
  let surface ← Surface.clear surface clear
  let (started, surface) ← Surface.start surface width height
  match started with
  | .error fault => pure (.error fault, surface)
  | .ok () => do
      let (drawn, surface) ← drawLines surface (lines surface)
      let surface ← Surface.finish surface
      pure (drawn, surface)

/-- The scene with its only camera made to fit a drawable. -/
def fitScene (scene : Asset.Scene) (width height : Nat) : Logged Asset.Scene :=
  match scene.cameras with
  | [camera] => do
      let camera ← camera.fit width height
      pure { scene with cameras := [camera] }
  | _ => pure scene

/-- The mode after drawing a frame on a drawable. -/
def draw (m : Mode S α) (width height : Nat) : Logged (Except Fault Unit × Mode S α) := do
  let scene ← fitScene m.scene width height
  let (drawn, surface) ←
    drawFrame m.surface m.settings.palette.clear width height (m.frameOn width)
  pure (drawn.mapError Fault.text, { m with scene, surface })

end Layout

end Mode

end Colloquy.Play
