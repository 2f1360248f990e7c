import Colloquy.Asset.Fault
import Colloquy.Logged
import Colloquy.Number.Scalar

/-!
# Cameras

A camera stands at a position and looks at a target.  Its view takes the world
to the camera, which looks along the negative third axis with the second axis
up.  Its projection takes what lies between the near and the far plane to the
unit cube.

All numbers are machine floats, so the order of operations is part of each
definition.
-/

namespace Colloquy.Asset

/-! ## Vectors and matrices -/

/-- A vector of space. -/
structure Vec3 where
  /-- Along the first axis. -/
  x : Float32
  /-- Along the second axis. -/
  y : Float32
  /-- Along the third axis. -/
  z : Float32
deriving Repr, DecidableEq, Inhabited

namespace Vec3

/-- The difference of two vectors. -/
def sub (a b : Vec3) : Vec3 := ⟨a.x - b.x, a.y - b.y, a.z - b.z⟩

/-- The opposite of a vector. -/
def neg (a : Vec3) : Vec3 := ⟨-a.x, -a.y, -a.z⟩

/-- The inner product. -/
def dot (a b : Vec3) : Float32 := a.x * b.x + a.y * b.y + a.z * b.z

/-- The cross product. -/
def cross (a b : Vec3) : Vec3 :=
  ⟨a.y * b.z - a.z * b.y, a.z * b.x - a.x * b.z, a.x * b.y - a.y * b.x⟩

/-- The vector of length one in the same direction. -/
def normalize (a : Vec3) : Vec3 :=
  let n := (a.dot a).sqrt
  ⟨a.x / n, a.y / n, a.z / n⟩

end Vec3

/-- A row of a matrix. -/
structure Row4 where
  /-- The first column. -/
  x : Float32
  /-- The second column. -/
  y : Float32
  /-- The third column. -/
  z : Float32
  /-- The fourth column. -/
  w : Float32
deriving Repr, DecidableEq, Inhabited

/-- A matrix of four rows. -/
structure Matrix4 where
  /-- The first row. -/
  first : Row4
  /-- The second row. -/
  second : Row4
  /-- The third row. -/
  third : Row4
  /-- The fourth row. -/
  fourth : Row4
deriving Repr, DecidableEq, Inhabited

/-! ## Cameras -/

/-- An angle in radians, given in degrees. -/
def radians (degrees : Float32) : Float32 := degrees * ((3.14159265358979323846 : Float32) / 180)

/-- The ratio of a width to a height, a height of zero counting as one. -/
def aspectRatio (width height : Nat) : Float32 :=
  ((width : Nat) : Float32) / ((max height 1 : Nat) : Float32)

/-- A camera. -/
structure Camera where
  /-- Where it stands. -/
  position : Vec3
  /-- What it looks at. -/
  target : Vec3
  /-- The direction that is up. -/
  up : Vec3
  /-- The vertical field of view in radians. -/
  fov : Float32
  /-- The ratio of width to height. -/
  aspect : Float32
  /-- The distance of the near plane. -/
  near : Float32
  /-- The distance of the far plane. -/
  far : Float32
deriving Repr, DecidableEq, Inhabited

namespace Camera

/-- The camera at a position that looks at the origin, its field of view given
in degrees. -/
def atOrigin (position : Vec3) (degrees aspect near far : Float32) : Camera :=
  { position, target := ⟨0, 0, 0⟩, up := ⟨0, 1, 0⟩, fov := radians degrees, aspect, near, far }

/-- The camera for a drawable of a size.  A change of shape that shows is worth a
notice. -/
def fit (c : Camera) (width height : Nat) : Logged Camera := do
  let aspect := aspectRatio width height
  Logged.sayIf (0.01 < (c.aspect - aspect).abs) (.aspectChanged c.aspect aspect)
  pure { c with aspect }

/-- World to camera. -/
def view (c : Camera) : Matrix4 :=
  let z := (c.target.sub c.position).neg.normalize
  let x := (c.up.cross z).normalize
  let y := z.cross x
  let row (axis : Vec3) : Row4 := ⟨axis.x, axis.y, axis.z, axis.dot c.position.neg⟩
  ⟨row x, row y, row z, ⟨0, 0, 0, 1⟩⟩

/-- The distance from one to the next number, two to the power of -23. -/
def oneStep : Float32 := Float32.ofBits 0x34000000

/-- Whether two numbers are so close that their difference says nothing: it is at
most one step, or at most one step of the larger of the two.  An infinity is
close to itself only. -/
def isClose (x y : Float32) : Bool :=
  if x == y then true
  else if x.isInf || y.isInf then false
  else
    let difference := (x - y).abs
    let largest := if x.abs < y.abs then y.abs else x.abs
    difference ≤ oneStep || difference ≤ largest * oneStep

/-- Camera to unit cube.  There is none for a camera without width or depth. -/
def projection? (c : Camera) : Option Matrix4 :=
  if isClose c.far c.near || isClose c.aspect 0 then none
  else
    let height := 1 / (c.fov / 2).tan
    some
      ⟨⟨height / c.aspect, 0, 0, 0⟩, ⟨0, height, 0, 0⟩,
       ⟨0, 0, (c.far + c.near) / (c.near - c.far), c.far * c.near * 2 / (c.near - c.far)⟩,
       ⟨0, 0, -1, 0⟩⟩

end Camera

/-- A scene. -/
structure Scene where
  /-- Its cameras. -/
  cameras : List Camera := []
deriving Repr, DecidableEq, Inhabited

/-- The only camera of a scene. -/
def Scene.single (s : Scene) : Except Fault Camera :=
  match s.cameras with
  | [camera] => .ok camera
  | cameras => .error (.cameraCount cameras.length)

end Colloquy.Asset
