import Colloquy.Number.Reading

/-!
# Words of the notation

The smallest parts of RON text: blank space with comments, names, numbers,
characters and strings.

Comments are blank space.  Those in `/*` and `*/` can stand inside each other.
A name is made of letters, digits and underscores, and does not start with a
digit.  After `r#` it can hold points and signs as well.
-/

namespace Colloquy.Ron

open Colloquy.Text

/-! ## Blank space -/

/-- Where in blank space one is. -/
inductive Gap where
  /-- Outside comments. -/
  | plain
  /-- In a comment up to the end of the line. -/
  | line
  /-- In a comment inside a number of others. -/
  | block (around : Nat)
deriving Repr, DecidableEq, Inhabited

/-- What follows blank space.  Nothing where a comment is not closed or a slash
starts none. -/
def skipGap : Gap → List Char → Option (List Char)
  | .plain, '/' :: '/' :: cs => skipGap .line cs
  | .plain, '/' :: '*' :: cs => skipGap (.block 0) cs
  | .plain, '/' :: _ => none
  | .plain, c :: cs =>
      if c = ' ' ∨ c = '\t' ∨ c = '\n' ∨ c = '\r' then skipGap .plain cs else some (c :: cs)
  | .plain, [] => some []
  | .line, c :: cs => if c = '\n' then skipGap .plain cs else skipGap .line cs
  | .line, [] => some []
  | .block 0, '*' :: '/' :: cs => skipGap .plain cs
  | .block (n + 1), '*' :: '/' :: cs => skipGap (.block n) cs
  | .block n, '/' :: '*' :: cs => skipGap (.block (n + 1)) cs
  | .block n, _ :: cs => skipGap (.block n) cs
  | .block _, [] => none

/-- Blank space. -/
def gap : Reader Unit := fun cs => (skipGap .plain cs).map fun rest => ((), rest)

/-- Whether a comma comes next, with blank space around it. -/
def comma : Reader Bool := do
  gap
  let found ← Reader.accept [',']
  if found then gap
  pure found

/-! ## Names -/

/-- Whether a name can start with a character. -/
def startsName (c : Char) : Bool := c.isAlpha || c == '_'

/-- Whether a name can hold a character. -/
def inName (c : Char) : Bool := startsName c || c.isDigit

/-- Whether a name after `r#` can hold a character. -/
def inRawName (c : Char) : Bool := inName c || c == '.' || c == '+' || c == '-'

/-- A name. -/
def name : Reader (List Char) := fun cs =>
  match cs with
  | 'r' :: '"' :: _ => none
  | 'r' :: '#' :: rest =>
      match rest.takeWhile inRawName with
      | [] => none
      | w => some (w, rest.dropWhile inRawName)
  | c :: _ =>
      if startsName c ∧ cs.takeWhile inName = cs.takeWhile inRawName then
        some (cs.takeWhile inName, cs.dropWhile inName)
      else none
  | [] => none

/-- Whether a word comes next that no name goes on with.  It is taken if it
does. -/
def keyword (word : List Char) : Reader Bool := fun cs =>
  match word.isPrefixOf? cs with
  | some rest => if (rest.head?.map inName).getD false then some (false, cs) else some (true, rest)
  | none => some (false, cs)

/-- Whether one of some words comes next.  It is taken if it does. -/
def anyKeyword : List (List Char) → Reader Bool
  | [] => pure false
  | word :: words => do
      if ← keyword word then pure true else anyKeyword words

/-! ## Numbers -/

/-- A number without a sign, up to a limit.  Underscores do not count, but none
can stand in front. -/
def unsigned (limit : Nat) : Reader Nat := do
  let base ←
    if ← Reader.accept ['0', 'x'] then pure 16
    else if ← Reader.accept ['0', 'b'] then pure 2
    else if ← Reader.accept ['0', 'o'] then pure 8
    else pure 10
  let cs ← Reader.span1 fun c => isDigitOf 16 c || c == '_'
  if cs.head? = some '_' then failure
  let ds := cs.filter (· != '_')
  if ds.all (isDigitOf base) && digits base ds ≤ limit then pure (digits base ds) else failure

/-- Whether a number with a point or an exponent can hold a character. -/
def inFloat (c : Char) : Bool := c.isDigit || ['e', 'E', '.', '+', '-', '_'].contains c

/-- The special numbers, with their bit patterns. -/
def specials : List (List Char × UInt32) :=
  [(['i', 'n', 'f'], 0x7F800000), (['+', 'i', 'n', 'f'], 0x7F800000),
   (['-', 'i', 'n', 'f'], 0xFF800000), (['N', 'a', 'N'], 0x7FC00000),
   (['+', 'N', 'a', 'N'], 0x7FC00000), (['-', 'N', 'a', 'N'], 0xFFC00000)]

/-- One of some special numbers, if it comes next. -/
def special : List (List Char × UInt32) → Reader (Option Float32)
  | [] => pure none
  | (word, bits) :: rest => do
      if ← keyword word then pure (some (Float32.ofBits bits)) else special rest

/-- A number of 32 bits. -/
def float : Reader Float32 := do
  match ← special specials with
  | some x => pure x
  | none => do
      let cs ← Reader.span inFloat
      let (negative, d) ← Reader.require (Reader.whole Number.readDecimal (String.ofList cs))
      pure (d.toFloat32 negative)

/-- An integer of 64 bits, with or without a sign, of which nothing is kept. -/
def anyInteger : Reader Unit := do
  let limit ←
    if ← Reader.accept ['-'] then pure 0x8000000000000000
    else if ← Reader.accept ['+'] then pure 0x7FFFFFFFFFFFFFFF
    else pure 0xFFFFFFFFFFFFFFFF
  let _ ← unsigned limit

/-- Whether the characters after a sign that a number with a point can hold
reach further than those an integer can hold. -/
def outrunsInteger : Reader Bool := Reader.ahead do
  if !(← Reader.accept ['-']) then let _ ← Reader.accept ['+']
  let long ← Reader.ahead (Reader.span inFloat)
  let short ← Reader.span fun c => isDigitOf 16 c || c == '_'
  pure (decide (short.length < long.length))

/-- Any number, of which nothing is kept.  What is no integer of 64 bits can
still be a number with an exponent or one that is too large. -/
def anyNumber : Reader Unit := do
  let fraction : Reader Unit := do let _ ← float
  if ← outrunsInteger then fraction else anyInteger <|> fraction

/-! ## Characters and strings -/

/-- What follows a backslash. -/
def escape : Reader Char := do
  match ← Reader.next with
  | '\'' => pure '\''
  | '"' => pure '"'
  | '\\' => pure '\\'
  | 'n' => pure '\n'
  | 'r' => pure '\r'
  | 't' => pure '\t'
  | '0' => pure '\x00'
  | 'x' => do
      let ds ← Reader.spanAtMost 2 (isDigitOf 16)
      if ds.length = 2 then pure (Char.ofNat (digits 16 ds)) else failure
  | 'u' => do
      Reader.expect ['\x7b']
      let ds ← Reader.spanAtMost 6 (isDigitOf 16)
      Reader.expect ['\x7d']
      if ds.isEmpty then failure
      Reader.require (charOf? (digits 16 ds))
  | _ => failure

/-- The rest of a string with escapes. -/
def quotedRest : Nat → Reader (List Char)
  | 0 => failure
  | n + 1 => do
      match ← Reader.next with
      | '"' => pure []
      | '\\' => do
          let c ← escape
          let rest ← quotedRest n
          pure (c :: rest)
      | c => do
          let rest ← quotedRest n
          pure (c :: rest)

/-- The rest of a string without escapes, up to its ending. -/
def rawRest (ending : List Char) : List Char → Option (List Char × List Char)
  | [] => none
  | c :: cs =>
      match ending.isPrefixOf? (c :: cs) with
      | some rest => some ([], rest)
      | none => (rawRest ending cs).map fun (s, rest) => (c :: s, rest)

/-- A string.  One without escapes starts with `r`, and ends with as many hash
signs as stand in front. -/
def string : Reader String := do
  if ← Reader.accept ['"'] then
    let cs ← Reader.fueled quotedRest
    pure (String.ofList cs)
  else
    Reader.expect ['r']
    let hashes ← Reader.span (· == '#')
    Reader.expect ['"']
    let cs ← rawRest ('"' :: hashes)
    pure (String.ofList cs)

/-- A character in single quotes. -/
def character : Reader Char := do
  Reader.expect ['\'']
  let c ←
    match ← Reader.next with
    | '\\' => escape
    | '\'' => failure
    | c => pure c
  Reader.expect ['\'']
  pure c

end Colloquy.Ron
