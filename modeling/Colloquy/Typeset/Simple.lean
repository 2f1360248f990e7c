import Colloquy.Typeset.Glyph

/-!
# Simple shapers

Two shapers that need no font.  `perChar` makes a cluster of every character.
`Lettering` makes glyphs with ligatures and marks, in either direction.
-/

namespace Colloquy.Typeset

section PerChar

variable {α : Type u}

/-- The clusters of characters, the first one at a given place. -/
def charClusters (advance : Char → α) (space : Char → Bool) : Nat → List Char → List (Cluster α)
  | _, [] => []
  | place, c :: cs =>
      ⟨place, place + c.utf8Size, advance c, space c⟩ ::
        charClusters advance space (place + c.utf8Size) cs

/-- The shaper with one cluster for each character. -/
def perChar (advance : Char → α) (space : Char → Bool) : Shaper α :=
  fun text => charClusters advance space 0 text.toList

end PerChar

/-- How the glyphs of a text are made. -/
structure Lettering where
  /-- The advance of a character. -/
  advance : Char → Int32
  /-- Texts that become one glyph, the first that fits being taken. -/
  ligatures : List (List Char) := []
  /-- Characters that belong to the glyph before them. -/
  isMark : Char → Bool := fun _ => false
  /-- Whether the glyphs are drawn from the end of the text. -/
  backwards : Bool := false

namespace Lettering

/-- How many characters the glyph at the head of a text takes besides the first
one. -/
def reach (l : Lettering) (text : List Char) : Nat :=
  match l.ligatures.find? fun lig => lig.isPrefixOf text with
  | some lig => lig.length - 1
  | none => 0

/-- The glyphs of a text from a place on, given the place of the glyph before. -/
def glyphsFrom (l : Lettering) (place : Nat) (previous : Option Nat) :
    List Char → List Glyph
  | [] => []
  | c :: cs =>
      let taken := cs.take (l.reach (c :: cs))
      let own := if l.isMark c then previous.getD place else place
      { id := 0, place := own, xAdvance := l.advance c } ::
        l.glyphsFrom (place + c.utf8Size + Text.byteSize taken) (some own)
          (cs.drop (l.reach (c :: cs)))
termination_by text => text.length
decreasing_by
  simp only [List.length_cons, List.length_drop]
  omega

/-- The glyphs of a text. -/
def glyphs (l : Lettering) (text : String) : List Glyph :=
  let gs := l.glyphsFrom 0 none text.toList
  if l.backwards then gs.reverse else gs

/-- The shaper that draws with the glyphs. -/
def shaper {α : Type u} [Div α] [NatCast α] [IntCast α] (l : Lettering) : Shaper α :=
  fun text => clustersOfGlyphs text (l.glyphs text)

end Lettering

end Colloquy.Typeset
