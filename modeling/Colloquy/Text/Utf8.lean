/-!
# Reading UTF-8

Bytes are read as characters one after the other.  The first byte of a
character says how many follow and which values the second may have.  The first
place where that fails is reported, with the count of bytes that made sense
there, or as incomplete where the bytes end inside a character.
-/

namespace Colloquy.Text

/-- Where and how bytes are not UTF-8. -/
structure Utf8Fault where
  /-- The place of the first byte that is not part of a character. -/
  place : Nat
  /-- How many bytes are wrong there.  Nothing where the bytes end too early. -/
  wrong : Option Nat
deriving Repr, DecidableEq, Inhabited

/-- The fault in words. -/
def Utf8Fault.text (f : Utf8Fault) : String :=
  match f.wrong with
  | some n => s!"invalid utf-8 sequence of {n} bytes from index {f.place}"
  | none => s!"incomplete utf-8 byte sequence from index {f.place}"

/-- The bits of the first byte of a character, and the least and greatest value
of each byte that follows. -/
def utf8Lead? (b : UInt8) : Option (Nat × List (UInt8 × UInt8)) :=
  let n := b.toNat
  let any : UInt8 × UInt8 := (0x80, 0xBF)
  if n < 0x80 then some (n, [])
  else if n < 0xC2 then none
  else if n < 0xE0 then some (n % 0x20, [any])
  else if n = 0xE0 then some (0, [(0xA0, 0xBF), any])
  else if n = 0xED then some (0xD, [(0x80, 0x9F), any])
  else if n < 0xF0 then some (n % 0x10, [any, any])
  else if n = 0xF0 then some (0, [(0x90, 0xBF), any, any])
  else if n < 0xF4 then some (n % 8, [any, any, any])
  else if n = 0xF4 then some (4, [(0x80, 0x8F), any, any])
  else none

/-- The code point that a first byte and those after it stand for.  A fault is
the count of wrong bytes. -/
def utf8Tail (value wrong : Nat) :
    List (UInt8 × UInt8) → List UInt8 → Except (Option Nat) Nat
  | [], _ => .ok value
  | _ :: _, [] => .error none
  | (low, high) :: ranges, b :: bs =>
      if low ≤ b ∧ b ≤ high then utf8Tail (value * 64 + b.toNat % 64) (wrong + 1) ranges bs
      else .error (some wrong)

/-- The characters of bytes, the first of which stands at a given place. -/
def decodeFrom (place : Nat) : List UInt8 → Except Utf8Fault (List Char)
  | [] => .ok []
  | b :: bs =>
      match utf8Lead? b with
      | none => .error ⟨place, some 1⟩
      | some (value, ranges) =>
          match utf8Tail value 1 ranges bs with
          | .error wrong => .error ⟨place, wrong⟩
          | .ok code =>
              (decodeFrom (place + 1 + ranges.length) (bs.drop ranges.length)).map
                (Char.ofNat code :: ·)
termination_by bs => bs.length
decreasing_by
  simp only [List.length_cons, List.length_drop]
  omega

/-- The text that bytes stand for. -/
def decodeUtf8 (bs : List UInt8) : Except Utf8Fault String :=
  (decodeFrom 0 bs).map String.ofList

/-- The bytes of a text. -/
def encodeUtf8 (text : String) : List UInt8 := text.toUTF8.toList

end Colloquy.Text
