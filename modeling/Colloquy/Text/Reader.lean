/-!
# Readers

A reader takes something off the front of a text, or fails.  Readers are put
together in the order in which they read.  A reader that repeats itself gets
the length of the text as its fuel, since each round takes a character.
-/

namespace Colloquy.Text

/-- What takes something off the front of a text. -/
abbrev Reader := StateT (List Char) Option

namespace Reader

variable {α : Type}

/-- The next character, which stays there. -/
def peek : Reader (Option Char) := fun cs => some (cs.head?, cs)

/-- The next character. -/
def next : Reader Char
  | [] => none
  | c :: cs => some (c, cs)

/-- Nothing, at the end of the text only. -/
def atEnd : Reader Unit
  | [] => some ((), [])
  | _ :: _ => none

/-- Whether a word comes next.  It is taken if it does. -/
def accept (word : List Char) : Reader Bool := fun cs =>
  match word.isPrefixOf? cs with
  | some rest => some (true, rest)
  | none => some (false, cs)

/-- A word that has to come next. -/
def expect (word : List Char) : Reader Unit := do
  if ← accept word then pure () else failure

/-- The characters from here that pass a test. -/
def span (p : Char → Bool) : Reader (List Char) := fun cs =>
  some (cs.takeWhile p, cs.dropWhile p)

/-- The characters from here that pass a test, at least one. -/
def span1 (p : Char → Bool) : Reader (List Char) := do
  let cs ← span p
  if cs.isEmpty then failure else pure cs

/-- The characters from here that pass a test, up to a count of them. -/
def spanAtMost (count : Nat) (p : Char → Bool) : Reader (List Char) := fun cs =>
  let found := (cs.take count).takeWhile p
  some (found, cs.drop found.length)

/-- What a reader reads, or nothing where it fails. -/
def attempt (r : Reader α) : Reader (Option α) := fun cs =>
  match r cs with
  | some (a, rest) => some (some a, rest)
  | none => some (none, cs)

/-- A reader without taking anything. -/
def ahead (r : Reader α) : Reader α := fun cs => (r cs).map fun (a, _) => (a, cs)

/-- A value that has to be there. -/
def require : Option α → Reader α
  | some a => pure a
  | none => failure

/-- A reader that repeats itself at most once for each character. -/
def fueled (r : Nat → Reader α) : Reader α := fun cs => r (cs.length + 1) cs

/-- What a reader makes of a whole text. -/
def whole (r : Reader α) (text : String) : Option α :=
  ((do let a ← r; atEnd; pure a) text.toList).map Prod.fst

end Reader

/-- The value of a digit below a base of at most sixteen. -/
def digit? (base : Nat) (c : Char) : Option Nat :=
  let n := c.toNat
  let value :=
    if c.isDigit then some (n - 48)
    else if 'a' ≤ c ∧ c ≤ 'f' then some (n - 87)
    else if 'A' ≤ c ∧ c ≤ 'F' then some (n - 55)
    else none
  value.bind fun v => if v < base then some v else none

/-- Whether a character is a digit below a base. -/
def isDigitOf (base : Nat) (c : Char) : Bool := (digit? base c).isSome

/-- The number that digits stand for. -/
def digits (base : Nat) (cs : List Char) : Nat :=
  cs.foldl (fun n c => n * base + (digit? base c).getD 0) 0

/-- The character with a code point, if there is one. -/
def charOf? (n : Nat) : Option Char := if n.isValidChar then some (Char.ofNat n) else none

end Colloquy.Text
