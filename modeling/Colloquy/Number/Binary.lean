/-!
# Binary floating point formats

A finite number of a format is `m · 2^q`, its sign apart, with `m` below
`2^precision` and `q` between two bounds.  `BinaryFormat.nearest` takes a
quotient of natural numbers to the number of the format nearest to it, a tie
going to the even `m`.  Everything is exact arithmetic on `Nat` and `Int`; the
machine formats come in only as bit patterns, at both ends.
-/

namespace Colloquy.Number

/-- A power of two. -/
def twoTo (n : Nat) : Nat := Nat.pow 2 n

/-- A power of ten. -/
def tenTo (n : Nat) : Nat := Nat.pow 10 n

/-- The quotient rounded to the nearest natural number, a tie to the even one. -/
def roundDiv (num den : Nat) : Nat :=
  let d := num / den
  let r := num % den
  if 2 * r < den then d
  else if den < 2 * r then d + 1
  else d + d % 2

/-- A binary floating point format. -/
structure BinaryFormat where
  /-- Bits of the significand, the leading one included. -/
  precision : Nat
  /-- The least exponent of a unit. -/
  least : Int
  /-- The greatest exponent of a unit. -/
  greatest : Int
deriving Repr

namespace BinaryFormat

/-- The format of 32 bits. -/
def single : BinaryFormat := ⟨24, -149, 104⟩

/-- The format of 64 bits. -/
def double : BinaryFormat := ⟨53, -1074, 971⟩

/-- A quotient scaled by a power of two, as a numerator and a denominator. -/
def scale (num den : Nat) (e : Int) : Nat × Nat :=
  if 0 ≤ e then (num * twoTo e.toNat, den) else (num, den * twoTo (-e).toNat)

/-- The exponent of the greatest power of two that is at most a positive
quotient. -/
def log2Div (num den : Nat) : Int :=
  let e : Int := (num.log2 : Int) - den.log2
  let (n, d) := scale num den (-e)
  if n < d then e - 1 else e

/-- The number nearest to a quotient, as its significand and exponent.
Nothing when the quotient rounds above the greatest finite number. -/
def nearest (f : BinaryFormat) (num den : Nat) : Option (Nat × Int) :=
  if num = 0 then some (0, f.least)
  else
    let q := max (log2Div num den - (f.precision - 1 : Nat)) f.least
    let (n, d) := scale num den (-q)
    let m := roundDiv n d
    let (m, q) := if m = twoTo f.precision then (m / 2, q + 1) else (m, q)
    if f.greatest < q then none else some (m, q)

/-- The bit pattern of a finite number, its sign bit clear. -/
def pattern (f : BinaryFormat) (m : Nat) (q : Int) : Nat :=
  (q - f.least).toNat * twoTo (f.precision - 1) + m

/-- The bit pattern of infinity, its sign bit clear. -/
def infinity (f : BinaryFormat) : Nat :=
  ((f.greatest - f.least).toNat + 2) * twoTo (f.precision - 1)

/-- The significand and exponent of a bit pattern with a clear sign bit.
Nothing for infinity and for what is no number. -/
def parts? (f : BinaryFormat) (pattern : Nat) : Option (Nat × Int) :=
  if f.infinity ≤ pattern then none
  else
    let unit := twoTo (f.precision - 1)
    if pattern < unit then some (pattern, f.least)
    else some (pattern % unit + unit, f.least + (pattern / unit - 1 : Nat))

end BinaryFormat

/-- A decimal `digits · 10^exponent`, its sign apart. -/
structure Decimal where
  /-- The digits, read as one number. -/
  digits : Nat
  /-- The power of ten they are scaled by. -/
  exponent : Int
deriving Repr, DecidableEq

namespace Decimal

/-- How many digits a number has when written out, one for zero. -/
def digitCount (n : Nat) : Nat := (Nat.toDigits 10 n).length

/-- The decimal as a numerator and a denominator. -/
def quotient (d : Decimal) : Nat × Nat :=
  if 0 ≤ d.exponent then (d.digits * tenTo d.exponent.toNat, 1)
  else (d.digits, tenTo (-d.exponent).toNat)

/-- The bit pattern nearest to a decimal, its sign bit clear.  No format here
reaches `10^400` in either direction, so the powers of ten stay small. -/
def patternIn (f : BinaryFormat) (d : Decimal) : Nat :=
  let magnitude : Int := digitCount d.digits + d.exponent
  if d.digits = 0 ∨ magnitude < -400 then 0
  else if 400 < magnitude then f.infinity
  else
    let (num, den) := d.quotient
    match f.nearest num den with
    | some (m, q) => f.pattern m q
    | none => f.infinity

/-- The number of 32 bits nearest to a decimal. -/
def toFloat32 (negative : Bool) (d : Decimal) : Float32 :=
  Float32.ofBits (UInt32.ofNat (d.patternIn .single + if negative then 0x80000000 else 0))

/-- The number of 64 bits nearest to a decimal. -/
def toFloat (negative : Bool) (d : Decimal) : Float :=
  Float.ofBits (UInt64.ofNat (d.patternIn .double + if negative then 0x8000000000000000 else 0))

end Decimal

/-- A number of 32 bits taken apart: its sign, and its significand and exponent
when it is finite. -/
def parts32 (x : Float32) : Bool × Option (Nat × Int) :=
  let n := x.toBits.toNat
  (0x80000000 ≤ n, BinaryFormat.single.parts? (n % 0x80000000))

/-- A number of 64 bits taken apart. -/
def parts64 (x : Float) : Bool × Option (Nat × Int) :=
  let n := x.toBits.toNat
  (0x8000000000000000 ≤ n, BinaryFormat.double.parts? (n % 0x8000000000000000))

end Colloquy.Number
