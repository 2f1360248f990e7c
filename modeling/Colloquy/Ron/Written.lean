import Colloquy.Number.Shortest
import Colloquy.Text.Hidden

/-!
# Writing the notation

A record and a list have each value on a line of its own, with a comma after it
and four spaces in front for each record or list around it.  A tuple stands on
one line.
-/

namespace Colloquy.Ron

/-- A character of a text, with an escape where it needs one or does not show. -/
def escaped (c : Char) : List Char :=
  if c = '\x00' then ['\\', '0']
  else if c = '\t' then ['\\', 't']
  else if c = '\r' then ['\\', 'r']
  else if c = '\n' then ['\\', 'n']
  else if c = '\'' ∨ c = '"' ∨ c = '\\' then ['\\', c]
  else if Text.isHidden c then ['\\', 'u', '\x7b'] ++ Nat.toDigits 16 c.toNat ++ ['\x7d']
  else [c]

/-- A text in quotes. -/
def quoted (s : String) : String :=
  String.ofList (['"'] ++ s.toList.flatMap escaped ++ ['"'])

/-- A number of 32 bits. -/
def written (x : Float32) : String :=
  match Number.parts32 x with
  | (negative, some (m, q)) => Number.plain .single negative m q
  | (negative, none) => if x.isNaN then "NaN" else Number.signed negative "inf"

/-- A truth value. -/
def truth (b : Bool) : String := if b then "true" else "false"

/-- The space in front of a line. -/
def indent (depth : Nat) : String := String.ofList (List.replicate (4 * depth) ' ')

/-- Lines between brackets, inside a number of records and lists. -/
def block (opening closing : String) (depth : Nat) (lines : List String) : String :=
  opening ++ "\n" ++ String.join (lines.map fun l => indent (depth + 1) ++ l ++ ",\n") ++
    indent depth ++ closing

/-- A list of written values. -/
def listed (depth : Nat) (values : List String) : String :=
  if values.isEmpty then "[]" else block "[" "]" depth values

/-- A record of names with their written values. -/
def recorded (depth : Nat) (fields : List (String × String)) : String :=
  block "(" ")" depth (fields.map fun (name, value) => name ++ ": " ++ value)

/-- A tuple of written values. -/
def tupled (values : List String) : String := "(" ++ ", ".intercalate values ++ ")"

end Colloquy.Ron
