/-!
# Resource handles

A backend keeps three kinds of resource.  A handle names a slot by its index
and the version the slot had when the resource was put there.  As a number it
is the version in the high 32 bits and the index in the low ones.
-/

namespace Colloquy.Render

/-- The kinds of resource a backend keeps. -/
inductive Kind where
  /-- A shader program. -/
  | program
  /-- A buffer for quads. -/
  | buffer
  /-- A glyph texture. -/
  | texture
deriving Repr, DecidableEq, Inhabited

/-- A handle to a resource of one kind. -/
structure Handle (kind : Kind) where
  /-- The version of the slot. -/
  version : UInt32
  /-- The index of the slot, counted from one. -/
  index : Nat
deriving Repr, DecidableEq, Inhabited

namespace Handle

variable {kind : Kind}

/-- The handle as one number. -/
def number (h : Handle kind) : Nat := h.version.toNat * 0x100000000 + h.index

/-- The handle a number stands for. -/
def ofNumber (n : Nat) : Handle kind := ⟨UInt32.ofNat (n / 0x100000000), n % 0x100000000⟩

end Handle

/-- What a resource of a kind is called. -/
def Kind.noun : Kind → String
  | .program => "program"
  | .buffer => "quad buffer"
  | .texture => "texture"

/-- What a handle of a kind is called. -/
def Kind.handleNoun : Kind → String
  | .program => "ProgramHandle"
  | .buffer => "QuadBufferHandle"
  | .texture => "TextureHandle"

end Colloquy.Render
