import Colloquy.Number.Shortest

/-!
# Writing TOML

A text stands in the plainest quotes that can hold it.  With escapes on one line
if none is needed, else without escapes on one line, else the same two over
several lines.  Where all of them fail, a text has escapes where they are needed.

A list of more than one value has each on a line of its own.
-/

namespace Colloquy.Toml

/-! ## Texts -/

/-- How a text stands in quotes. -/
structure Quoting where
  /-- Whether backslashes are escapes. -/
  escapes : Bool
  /-- Whether line breaks can stand for themselves. -/
  isLong : Bool
deriving Repr, DecidableEq, Inhabited

/-- The length of the longest run of a character. -/
def longestRun (q : Char) (cs : List Char) : Nat :=
  (cs.foldl (fun (run, best) c => if c = q then (run + 1, max best (run + 1)) else (0, best))
    (0, 0)).2

/-- Whether a character has to be escaped in all quotes. -/
def isControl (c : Char) : Bool := (c < ' ' && c != '\t' && c != '\n') || c == '\x7f'

/-- Whether quotes without escapes hold a text. -/
def fitsLiteral (isLong : Bool) (cs : List Char) : Bool :=
  !cs.any isControl && longestRun '\'' cs ≤ (if isLong then 2 else 0) &&
    (isLong || !cs.contains '\n')

/-- Whether quotes with escapes hold a text without any. -/
def fitsBasic (isLong : Bool) (cs : List Char) : Bool :=
  !cs.any isControl && !cs.contains '\\' && longestRun '"' cs ≤ (if isLong then 2 else 0) &&
    (isLong || !cs.contains '\n')

/-- The quotes of a text. -/
def Quoting.ofText (cs : List Char) : Quoting :=
  if fitsBasic false cs then ⟨true, false⟩
  else if fitsLiteral false cs then ⟨false, false⟩
  else if fitsBasic true cs then ⟨true, true⟩
  else if fitsLiteral true cs then ⟨false, true⟩
  else ⟨true, cs.contains '\n'⟩

/-- A code point with four digits after `\u`. -/
def pointEscape (c : Char) : List Char :=
  let ds := (Nat.toDigits 16 c.toNat).map Char.toUpper
  ['\\', 'u'] ++ List.replicate (4 - ds.length) '0' ++ ds

/-- A character other than a quote, with an escape where it needs one. -/
def escaped (isLong : Bool) (c : Char) : List Char :=
  if c = '\x08' then ['\\', 'b']
  else if c = '\t' then ['\\', 't']
  else if c = '\n' then (if isLong then ['\n'] else ['\\', 'n'])
  else if c = '\x0c' then ['\\', 'f']
  else if c = '\r' then ['\\', 'r']
  else if c = '\\' then ['\\', '\\']
  else if isControl c then pointEscape c
  else [c]

/-- Characters with escapes, after a run of quotes.  Over several lines every
third quote of a run has an escape, and on one line every quote. -/
def escapedFrom (isLong : Bool) : Nat → List Char → List Char
  | _, [] => []
  | run, c :: cs =>
      if c = '"' then
        if run < (if isLong then 2 else 0) then c :: escapedFrom isLong (run + 1) cs
        else '\\' :: c :: escapedFrom isLong 0 cs
      else escaped isLong c ++ escapedFrom isLong 0 cs

/-- A text in quotes. -/
def quoted (s : String) : String :=
  let cs := s.toList
  let quoting := Quoting.ofText cs
  let quote := if quoting.escapes then '"' else '\''
  let quotes := List.replicate (if quoting.isLong then 3 else 1) quote
  let lead := if quoting.isLong && cs.contains '\n' then ['\n'] else []
  let inner := if quoting.escapes then escapedFrom quoting.isLong 0 cs else cs
  String.ofList (quotes ++ lead ++ inner ++ quotes)

/-! ## Other values -/

/-- A number of 32 bits with the digits it needs among those of 64 bits. -/
def written (x : Float32) : String :=
  match Number.parts64 x.toFloat with
  | (negative, some (m, q)) => Number.plain .double negative m q
  | (negative, none) => if x.isNaN then "nan" else Number.signed negative "inf"

/-- A truth value. -/
def truth (b : Bool) : String := if b then "true" else "false"

/-- A list of written values. -/
def listed : List String → String
  | [] => "[]"
  | [v] => "[" ++ v ++ "]"
  | vs => "[\n" ++ String.join (vs.map fun v => "    " ++ v ++ ",\n") ++ "]"

/-- A line that gives a name its written value. -/
def defined (name value : String) : String := name ++ " = " ++ value ++ "\n"

/-- A table with its header, and an empty line before it. -/
def titled (name : String) (lines : List String) : String :=
  "\n[" ++ name ++ "]\n" ++ String.join lines

end Colloquy.Toml
