import Colloquy.Font.Face
import Colloquy.Number.Scalar
import Colloquy.Typeset.Glyph

/-!
# Shaping with a face

A text becomes glyphs in four steps.  Each character becomes its glyph.  Then
ligatures are formed from left to right.  Then the pairs that stand side by side
are moved.  A text whose first letter belongs to a script written from right to
left is drawn from its end.

A pair moved apart by a value gets half of it on the left, rounded down, and the
rest on the right, where the glyph is moved as well.
-/

namespace Colloquy.Font

open Colloquy.Typeset (Glyph)

/-- A glyph with its distances in font units. -/
structure Unscaled where
  /-- The index of the glyph. -/
  index : Nat
  /-- The place in the text. -/
  place : Nat
  /-- How far the pen goes right after it. -/
  advance : Int
  /-- How far right of the pen it is drawn. -/
  offset : Int := 0
deriving Repr, DecidableEq, Inhabited

/-- Which way a letter is written, for characters that are letters. -/
def writtenBackwards? (c : Char) : Option Bool :=
  let n := c.toNat
  if 0x0590 ≤ n ∧ n < 0x0700 then some true
  else if c.isAlpha ∨ (0x00C0 ≤ n ∧ n < 0x0250) ∨ (0x0370 ≤ n ∧ n < 0x0530) ∨
      (0x3041 ≤ n ∧ n < 0xA000) ∨ (0xAC00 ≤ n ∧ n < 0xD7A4) ∨ (0xFB00 ≤ n ∧ n < 0xFB07) then
    some false
  else none

/-- Whether a text is drawn from its end. -/
def isBackwards (text : List Char) : Bool := (text.findSome? writtenBackwards?).getD false

namespace Face

/-- How far the pen goes right after a glyph.  A glyph outside the face does not
move it.  In a face without advances every glyph is as wide as the font is
high. -/
def advance (f : Face) (index : Nat) : Nat :=
  if f.lacks .hmtx then f.unitsPerEm else (f.advance? index).getD 0

/-- The glyphs of characters, the first one at a given place. -/
def mapped (f : Face) (place : Nat) : List Char → List Unscaled
  | [] => []
  | c :: cs =>
      let index := f.indexOf c
      { index, place, advance := f.advance index } :: f.mapped (place + c.utf8Size) cs

/-- The first ligature that glyphs start with. -/
def ligatureAt? (f : Face) (glyphs : List Unscaled) : Option Ligature :=
  if f.lacks .gsub then none
  else f.ligatures.find? fun l => l.parts.isPrefixOf (glyphs.map Unscaled.index)

/-- Glyphs with ligatures formed. -/
def joined (f : Face) : List Unscaled → List Unscaled
  | [] => []
  | g :: gs =>
      match f.ligatureAt? (g :: gs) with
      | none => g :: f.joined gs
      | some l =>
          { index := l.whole, place := g.place, advance := f.advance l.whole } ::
            f.joined (gs.drop (l.parts.length - 1))
termination_by gs => gs.length
decreasing_by all_goals simp only [List.length_cons, List.length_drop]; omega

/-- By how much two glyphs are moved apart. -/
def kernOf (f : Face) (left right : Nat) : Int :=
  if f.lacks .kern then 0
  else ((f.kern.find? fun k => k.left == left && k.right == right).map KernPair.value).getD 0

/-- Glyphs with pairs moved. -/
def kerned (f : Face) : List Unscaled → List Unscaled
  | g :: h :: rest =>
      let k := f.kernOf g.index h.index
      let first := k / 2
      let second := k - first
      { g with advance := g.advance + first } ::
        f.kerned ({ h with advance := h.advance + second, offset := h.offset + second } :: rest)
  | gs => gs
termination_by gs => gs.length

/-- The glyphs of a text in font units. -/
def unscaled (f : Face) (text : List Char) : List Unscaled :=
  let glyphs := f.kerned (f.joined (f.mapped 0 text))
  if isBackwards text then glyphs.reverse else glyphs

/-- Sixty-fourths of a pixel in a font unit. -/
def scale (f : Face) (size : Nat) : Float32 :=
  ((size : Nat) : Float32) * ((64 : Nat) : Float32) / ((f.unitsPerEm : Nat) : Float32)

/-- Font units in sixty-fourths of a pixel, to the nearest, a half away from
zero. -/
def toFixed (f : Face) (size : Nat) (units : Int) : Int32 :=
  (((units : Int) : Float32) * f.scale size).round.toInt32

/-- The glyphs of a text at a size in pixels. -/
def shape (f : Face) (size : Nat) (text : String) : List Glyph :=
  (f.unscaled text.toList).map fun g =>
    { id := UInt32.ofNat g.index, place := g.place
      xAdvance := f.toFixed size g.advance
      xOffset := f.toFixed size g.offset }

end Face

end Colloquy.Font
