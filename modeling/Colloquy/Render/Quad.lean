/-!
# Quads and colours

A glyph is drawn as a rectangle of two triangles.  Positions are pixels, from
the top left corner of the screen, and down is positive.  Texture coordinates
run from zero to one.
-/

namespace Colloquy.Render

/-- A colour. -/
structure Rgb where
  /-- The share of red. -/
  red : Float32
  /-- The share of green. -/
  green : Float32
  /-- The share of blue. -/
  blue : Float32
deriving Repr, DecidableEq, Inhabited

/-- A colour with its opacity. -/
structure Rgba where
  /-- The colour. -/
  rgb : Rgb
  /-- The opacity. -/
  alpha : Float32
deriving Repr, DecidableEq, Inhabited

/-- A rectangle on the screen. -/
structure Quad (α : Type u) where
  /-- The left edge. -/
  left : α
  /-- The upper edge. -/
  top : α
  /-- The right edge. -/
  right : α
  /-- The lower edge. -/
  bottom : α
deriving Repr, DecidableEq, Inhabited

/-- A corner of a triangle. -/
structure Vertex (α : Type u) where
  /-- The position, from the left. -/
  x : α
  /-- The position, from the top. -/
  y : α
  /-- The texture coordinate, from the left. -/
  u : α
  /-- The texture coordinate, from the top. -/
  v : α
deriving Repr, DecidableEq, Inhabited

namespace Quad

/-- The rectangle with its left upper corner and its size. -/
def ofSize {α : Type u} [Add α] (left top width height : α) : Quad α :=
  ⟨left, top, left + width, top + height⟩

/-- The corners of the two triangles, in the order they are drawn. -/
def vertices {α : Type u} [NatCast α] (q : Quad α) : List (Vertex α) :=
  let zero : α := (0 : Nat)
  let one : α := (1 : Nat)
  let topLeft := ⟨q.left, q.top, zero, zero⟩
  let topRight := ⟨q.right, q.top, one, zero⟩
  let bottomRight := ⟨q.right, q.bottom, one, one⟩
  let bottomLeft := ⟨q.left, q.bottom, zero, one⟩
  [topLeft, topRight, bottomRight, topLeft, bottomRight, bottomLeft]

/-- The bytes of six corners with four numbers of 32 bits each. -/
def byteSize : Nat := 6 * 4 * 4

end Quad

end Colloquy.Render
