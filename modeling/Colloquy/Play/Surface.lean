import Colloquy.Typeset.Engine

/-!
# Surfaces

A play mode draws on a surface, which can be filled and takes lines of text in
a pass.  It measures and wraps text with the shaper of the surface, so lines are
drawn as they were measured.

A text engine is a surface.  A recorder is one that keeps what is drawn on it,
and fails where it is told to.
-/

namespace Colloquy.Play

open Colloquy.Render Colloquy.Typeset

/-- A state that text is drawn on. -/
class Surface (S : Type) (α : outParam Type) where
  /-- What measures text. -/
  shaper : S → Shaper α
  /-- The whole surface filled. -/
  clear : S → Rgba → Logged S
  /-- A pass started on a drawable of a width and a height. -/
  start : S → Nat → Nat → Logged (Except Typeset.Fault Unit × S)
  /-- A line drawn in a colour, the pen starting at a place. -/
  drawText : S → String → α → α → Rgb → Logged (Except Typeset.Fault Unit × S)
  /-- The pass ended. -/
  finish : S → Logged S

instance {B α : Type} [Backend B α] [Add α] [Sub α] [Div α] [NatCast α] [IntCast α] :
    Surface (Engine B α) α where
  shaper := Engine.shaper
  clear := Engine.clear
  start := Engine.start
  drawText := Engine.drawText
  finish := Engine.finish

/-- Something asked of a surface. -/
inductive Stroke (α : Type) where
  /-- The surface filled. -/
  | clear (color : Rgba)
  /-- A pass started. -/
  | start (width height : Nat)
  /-- A line drawn. -/
  | text (text : String) (x baseline : α) (color : Rgb)
  /-- The pass ended. -/
  | finish
deriving Repr, DecidableEq, Inhabited

/-- A surface that keeps what is drawn on it. -/
structure Recorder (α : Type) where
  /-- What measures text. -/
  shaper : Shaper α
  /-- Why passes do not start, if they do not. -/
  startFault : Option Typeset.Fault := none
  /-- Why a line is not drawn, given how many were to be drawn before. -/
  textFault : Nat → Option Typeset.Fault := fun _ => none
  /-- What was drawn. -/
  strokes : List (Stroke α) := []
  /-- How many lines were to be drawn. -/
  texts : Nat := 0

namespace Recorder

variable {α : Type}

/-- One more stroke kept. -/
def keep (r : Recorder α) (s : Stroke α) : Recorder α := { r with strokes := r.strokes ++ [s] }

instance : Surface (Recorder α) α where
  shaper := Recorder.shaper
  clear r color := pure (r.keep (.clear color))
  start r width height :=
    let r := r.keep (.start width height)
    match r.startFault with
    | some fault => pure (.error fault, r)
    | none => pure (.ok (), r)
  drawText r text x baseline color :=
    let counted := { r with texts := r.texts + 1 }
    match r.textFault r.texts with
    | some fault => pure (.error fault, counted)
    | none => pure (.ok (), counted.keep (.text text x baseline color))
  finish r := pure (r.keep .finish)

end Recorder

end Colloquy.Play
