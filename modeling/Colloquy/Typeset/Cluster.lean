/-!
# Clusters

A shaper breaks a text into clusters, the smallest parts a line can be broken
between.  A cluster stands for a range of bytes of the text and has a width.
Everything measured or wrapped is measured and wrapped by its clusters.
-/

namespace Colloquy.Typeset

/-- A part of a text that is not broken. -/
structure Cluster (α : Type u) where
  /-- The place of its first byte. -/
  start : Nat
  /-- The place after its last byte. -/
  stop : Nat
  /-- Its width. -/
  advance : α
  /-- Whether it is a space. -/
  isSpace : Bool
deriving Repr, DecidableEq, Inhabited

/-- What breaks a text into clusters, in the order of the text. -/
abbrev Shaper (α : Type u) := String → List (Cluster α)

variable {α : Type u} [Zero α] [Add α]

/-- The width of clusters side by side, added from left to right. -/
def totalAdvance (cs : List (Cluster α)) : α := cs.foldl (fun w c => w + c.advance) 0

/-- The width of a text. -/
def Shaper.measure (shaper : Shaper α) (text : String) : α := totalAdvance (shaper text)

end Colloquy.Typeset
