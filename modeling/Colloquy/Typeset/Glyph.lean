import Colloquy.Number.Scalar
import Colloquy.Text.Slice
import Colloquy.Typeset.Cluster

/-!
# Glyphs and their clusters

A shaped text is a list of glyphs in the order they are drawn.  Each names the
place in the text it stems from.  Distances are counted in sixty-fourths of a
pixel.

The clusters of a shaped text are made of all glyphs of one place, wherever
they stand in the list.  They are in the order of the text, and each ends where
the next one starts.
-/

namespace Colloquy.Typeset

/-- A glyph of a shaped text. -/
structure Glyph where
  /-- The index in the font face. -/
  id : UInt32
  /-- The place in the text. -/
  place : Nat
  /-- How far the pen goes right after it. -/
  xAdvance : Int32
  /-- How far the pen goes down after it. -/
  yAdvance : Int32 := 0
  /-- How far right of the pen it is drawn. -/
  xOffset : Int32 := 0
  /-- How far above the pen it is drawn. -/
  yOffset : Int32 := 0
deriving Repr, DecidableEq, Inhabited

/-- An advance added to those of a place, in a list in the order of places. -/
def addAdvance (place : Nat) (advance : Int32) : List (Nat × Int32) → List (Nat × Int32)
  | [] => [(place, advance)]
  | (p, a) :: rest =>
      if place < p then (place, advance) :: (p, a) :: rest
      else if place = p then (p, advance + a) :: rest
      else (p, a) :: addAdvance place advance rest

/-- The sum of the advances at each place, in the order of places. -/
def advances : List Glyph → List (Nat × Int32)
  | [] => []
  | g :: gs => addAdvance g.place g.xAdvance (advances gs)

/-- Whether a place starts with a space or a tab. -/
def isSpaceAt (text : List Char) (place : Nat) : Bool :=
  Text.charAt? place text = some ' ' || Text.charAt? place text = some '\t'

section

variable {α : Type u} [Div α] [NatCast α] [IntCast α]

/-- Sixty-fourths of a pixel in pixels. -/
def pixels (n : Int32) : α := (n.toInt : α) / ((64 : Nat) : α)

/-- Clusters of sums of advances, each up to the next place and the last one up
to the end of the text. -/
def clustersOfAdvances (text : List Char) : List (Nat × Int32) → List (Cluster α)
  | [] => []
  | [(p, a)] => [⟨p, Text.byteSize text, pixels a, isSpaceAt text p⟩]
  | (p, a) :: (q, b) :: rest =>
      ⟨p, q, pixels a, isSpaceAt text p⟩ :: clustersOfAdvances text ((q, b) :: rest)

/-- The clusters of the glyphs of a text. -/
def clustersOfGlyphs (text : String) (glyphs : List Glyph) : List (Cluster α) :=
  clustersOfAdvances text.toList (advances glyphs)

end

end Colloquy.Typeset
