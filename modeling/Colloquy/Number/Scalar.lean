/-!
# Natural numbers and integers as 32-bit floats

Positions and widths are computed over any type of numbers with the four
operations, an order, and the integers in it.  Machine floats of 32 bits are
one such type.  An integer becomes the float nearest to it.
-/

namespace Colloquy.Number

instance natCastFloat32 : NatCast Float32 := ⟨Float32.ofNat⟩

instance intCastFloat32 : IntCast Float32 := ⟨Float32.ofInt⟩

end Colloquy.Number
