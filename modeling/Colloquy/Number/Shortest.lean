import Colloquy.Number.Binary

/-!
# Shortest decimals and decimals of fixed places

`shortest` finds the decimal of fewest digits that rounds back to a binary
number, and of those the nearest to it, a tie going up.  The reals that round to
`m · 2^q` are an interval around it, its ends included when `m` is even.  On the
grid of decimals with one, two, three, … digits the two neighbours of the number
are tried against that interval.  The first grid with a neighbour inside gives
the answer.  Seventeen digits always suffice.

`places` writes a number with a given count of digits after the point, a tie
going to the even digit.
-/

namespace Colloquy.Number

/-- The interval of reals that round to a number, in quarter units: its lower
end, the number and its upper end.  Below a power of two the units are half as
wide. -/
def roundingInterval (f : BinaryFormat) (m : Nat) (q : Int) : Nat × Nat × Nat :=
  let low := if m = twoTo (f.precision - 1) ∧ f.least < q then 4 * m - 1 else 4 * m - 2
  (low, 4 * m, 4 * m + 2)

/-- The exponent `e` with `10^(e-1) ≤ num / den < 10^e`, for a positive
quotient.  It is searched upwards from a first guess that is never too high. -/
def decimalMagnitude (num den : Nat) : Int :=
  let guess : Int := (Decimal.digitCount num : Int) - Decimal.digitCount den
  let atMost (e : Int) : Bool :=
    if 0 ≤ e then den * tenTo e.toNat ≤ num else den ≤ num * tenTo (-e).toNat
  if atMost guess then guess + 1 else guess

/-- The nearer of the two neighbours of a value on the decimal grid of a given
digit count, if one of them lies in the interval.  Of two equally near ones it
is the upper one.  All three numbers of the interval are numerators over
`den`. -/
def neighbourInside (low value high den : Nat) (closed : Bool) (exponent : Int) : Option Nat :=
  let (up, down) :=
    if 0 ≤ exponent then (1, tenTo exponent.toNat) else (tenTo (-exponent).toNat, 1)
  let unit := den * down
  let below := value * up / unit
  let inside (c : Nat) : Bool :=
    if closed then low * up ≤ c * unit && c * unit ≤ high * up
    else low * up < c * unit && c * unit < high * up
  let belowNearer := 2 * (value * up) < (2 * below + 1) * unit
  match inside below, inside (below + 1) with
  | true, true => some (if belowNearer then below else below + 1)
  | true, false => some below
  | false, true => some (below + 1)
  | false, false => none

/-- The first grid with a neighbour inside, at most `fuel` grids from the one of
`count` digits on. -/
def firstGrid (low value high den : Nat) (closed : Bool) (magnitude : Int) :
    (fuel count : Nat) → Decimal
  | 0, count => ⟨value / den, magnitude - count⟩
  | fuel + 1, count =>
      match neighbourInside low value high den closed (magnitude - count) with
      | some digits => ⟨digits, magnitude - count⟩
      | none => firstGrid low value high den closed magnitude fuel (count + 1)

/-- The shortest decimal that rounds back to `m · 2^q`. -/
def shortest (f : BinaryFormat) (m : Nat) (q : Int) : Decimal :=
  if m = 0 then ⟨0, 0⟩
  else
    let (low, value, high) := roundingInterval f m q
    let e := q - 2
    let (up, den) := if 0 ≤ e then (twoTo e.toNat, 1) else (1, twoTo (-e).toNat)
    let magnitude := decimalMagnitude (value * up) den
    firstGrid (low * up) (value * up) (high * up) den (m % 2 = 0) magnitude 17 1

/-- A decimal written without an exponent: the digits before the point, and
those after it. -/
def positional (d : Decimal) : String × String :=
  if 0 ≤ d.exponent then (toString (d.digits * tenTo d.exponent.toNat), "")
  else
    let places := (-d.exponent).toNat
    let whole := toString (d.digits / tenTo places)
    let rest := Nat.toDigits 10 (d.digits % tenTo places)
    let padded := List.replicate (places - rest.length) '0' ++ rest
    (whole, String.ofList (padded.reverse.dropWhile (· == '0')).reverse)

/-- A sign in front of a text. -/
def signed (negative : Bool) (s : String) : String := if negative then "-" ++ s else s

/-- A finite number with the fewest digits that read back, never with an
exponent, and always with a digit after the point. -/
def plain (f : BinaryFormat) (negative : Bool) (m : Nat) (q : Int) : String :=
  let (whole, rest) := positional (shortest f m q)
  signed negative (whole ++ "." ++ if rest = "" then "0" else rest)

/-- A number of 32 bits with a given count of digits after the point. -/
def places (count : Nat) (x : Float32) : String :=
  match parts32 x with
  | (negative, some (m, q)) =>
      let (num, den) := BinaryFormat.scale (m * tenTo count) 1 q
      let n := roundDiv num den
      let rest := Nat.toDigits 10 (n % tenTo count)
      let padded := List.replicate (count - rest.length) '0' ++ rest
      signed negative (toString (n / tenTo count) ++ "." ++ String.ofList padded)
  | (negative, none) => if x.isNaN then "NaN" else signed negative "inf"

end Colloquy.Number
