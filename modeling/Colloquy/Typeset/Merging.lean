import Colloquy.Typeset.Glyph

/-!
# Merging in passes

The glyphs of a place mostly stand side by side, and the places are mostly in order.
So neighbours of one place are joined first, then the sums are put in order, and then
neighbours are joined again.

An advance has thirty-two bits.  Here a sum that they do not hold is a fault.
-/

namespace Colloquy.Typeset

/-- A sum of advances that is no advance. -/
structure AdvanceOverflow where
  /-- The place of the glyphs. -/
  place : Nat
deriving Repr, DecidableEq

/-- The sum of two advances at a place. -/
def addAt (place : Nat) (a b : Int32) : Except AdvanceOverflow Int32 :=
  if Int32.minValue.toInt ≤ a.toInt + b.toInt ∧ a.toInt + b.toInt ≤ Int32.maxValue.toInt then
    .ok (a + b)
  else .error ⟨place⟩

/-- Neighbours of one place joined, with the sum of those before at the first place. -/
def joinFrom (place : Nat) (sum : Int32) :
    List (Nat × Int32) → Except AdvanceOverflow (List (Nat × Int32))
  | [] => .ok [(place, sum)]
  | (p, a) :: rest =>
      if p = place then do
        let sum ← addAt place sum a
        joinFrom place sum rest
      else do
        let joined ← joinFrom p a rest
        pure ((place, sum) :: joined)

/-- Neighbours of one place joined. -/
def joinNeighbours : List (Nat × Int32) → Except AdvanceOverflow (List (Nat × Int32))
  | [] => .ok []
  | (p, a) :: rest => joinFrom p a rest

/-- The place and the advance of a glyph. -/
def Glyph.entry (g : Glyph) : Nat × Int32 := (g.place, g.xAdvance)

/-- The sum of the advances at each place, in the order of places. -/
def mergedAdvances (glyphs : List Glyph) : Except AdvanceOverflow (List (Nat × Int32)) := do
  let runs ← joinNeighbours (glyphs.map Glyph.entry)
  joinNeighbours (runs.mergeSort fun r s => r.1 ≤ s.1)

/-- The clusters of the glyphs of a text. -/
def mergedClusters {α : Type u} [Div α] [NatCast α] [IntCast α] (text : String)
    (glyphs : List Glyph) : Except AdvanceOverflow (List (Cluster α)) :=
  match mergedAdvances glyphs with
  | .ok sums => .ok (clustersOfAdvances text.toList sums)
  | .error fault => .error fault

end Colloquy.Typeset
