import Colloquy.Number.Reading
import Colloquy.Toml.Table

/-!
# Words of TOML

The smallest parts of TOML text: blank space with comments, names, texts,
numbers, and dates with times of day.

A control character other than the tab stands nowhere but in an escape.  Between
two digits of a number there can be one underscore.
-/

namespace Colloquy.Toml

open Colloquy.Text

/-- Whether a character can stand for itself. -/
def isPlain (c : Char) : Bool := c == '\t' || (' ' ≤ c && c != '\x7f')

/-! ## Blank space -/

/-- Blank space on a line. -/
def blank : Reader Unit := do
  let _ ← Reader.span fun c => c == ' ' || c == '\t'

/-- Whether a line break comes next.  It is taken if it does. -/
def lineBreak : Reader Bool := do
  if ← Reader.accept ['\n'] then pure true else Reader.accept ['\r', '\n']

/-- Blank space on a line with a comment after it, if there is one. -/
def comment : Reader Unit := do
  blank
  if ← Reader.accept ['#'] then let _ ← Reader.span isPlain

/-- The end of a line, with the blank space and the comment before it. -/
def lineEnd : Reader Unit := do
  comment
  if ← lineBreak then pure () else Reader.atEnd

/-- A reader again and again, as long as a line break follows. -/
def acrossLines (r : Reader Unit) : Reader Unit := Reader.fueled go
where
  go : Nat → Reader Unit
    | 0 => failure
    | n + 1 => do
        r
        if ← lineBreak then go n

/-- Blank space, comments and line breaks. -/
def gap : Reader Unit := acrossLines comment

/-! ## Texts -/

/-- What follows a backslash. -/
def escape : Reader Char := do
  match ← Reader.next with
  | 'b' => pure '\x08'
  | 't' => pure '\t'
  | 'n' => pure '\n'
  | 'f' => pure '\x0c'
  | 'r' => pure '\r'
  | '"' => pure '"'
  | '\\' => pure '\\'
  | 'u' => point 4
  | 'U' => point 8
  | _ => failure
where
  point (count : Nat) : Reader Char := do
    let ds ← Reader.spanAtMost count (isDigitOf 16)
    if ds.length = count then Reader.require (charOf? (digits 16 ds)) else failure

/-- The rest of a text with escapes on one line. -/
def basicRest : Nat → Reader (List Char)
  | 0 => failure
  | n + 1 => do
      match ← Reader.next with
      | '"' => pure []
      | '\\' => do
          let c ← escape
          let rest ← basicRest n
          pure (c :: rest)
      | c => do
          if !isPlain c then failure
          let rest ← basicRest n
          pure (c :: rest)

/-- The rest of a text without escapes on one line. -/
def literalRest : Reader (List Char) := do
  let cs ← Reader.span fun c => isPlain c && c != '\''
  Reader.expect ['\'']
  pure cs

/-- A line break, or a character of a text without escapes. -/
def longLiteralPart : Reader (List Char) := do
  if ← lineBreak then pure ['\n']
  else
    let c ← Reader.next
    if isPlain c then pure [c] else failure

/-- A line break, or a character of a text with escapes.  A backslash at the end
of a line takes the line break away, and all blank space and line breaks that
follow. -/
def longBasicPart : Reader (List Char) := do
  if ← Reader.accept ['\\'] then
    match ← Reader.attempt (do blank; if ← lineBreak then acrossLines blank else failure) with
    | some _ => pure []
    | none => do
        let c ← escape
        pure [c]
  else longLiteralPart

/-- The rest of a text over several lines.  Three quotes end it, and one or two
more in front of them belong to it. -/
def longRest (quote : Char) (part : Reader (List Char)) : Nat → Reader (List Char)
  | 0 => failure
  | n + 1 => do
      let quotes ← Reader.span (· == quote)
      if quotes.length < 3 then
        let cs ← part
        let rest ← longRest quote part n
        pure (quotes ++ cs ++ rest)
      else if quotes.length ≤ 5 then pure (quotes.drop 3)
      else failure

/-- A text over several lines, after its three quotes.  A line break that comes
first does not belong to it. -/
def long (quote : Char) (part : Reader (List Char)) : Reader (List Char) := do
  let _ ← lineBreak
  Reader.fueled (longRest quote part)

/-- A text on one line. -/
def shortText : Reader String := do
  let cs ← if ← Reader.accept ['"'] then Reader.fueled basicRest
    else do
      Reader.expect ['\'']
      literalRest
  pure (String.ofList cs)

/-- A text. -/
def text : Reader String := do
  if ← Reader.accept ['"', '"', '"'] then
    let cs ← long '"' longBasicPart
    pure (String.ofList cs)
  else if ← Reader.accept ['\'', '\'', '\''] then
    let cs ← long '\'' longLiteralPart
    pure (String.ofList cs)
  else shortText

/-! ## Names -/

/-- Whether a name without quotes can hold a character. -/
def inBareName (c : Char) : Bool := c.isAlphanum || c == '_' || c == '-'

/-- A name. -/
def name : Reader String := do
  match ← Reader.peek with
  | some '"' | some '\'' => shortText
  | _ => do
      let cs ← Reader.span1 inBareName
      pure (String.ofList cs)

/-- How many names a dotted name and how many values around each other there can
be. -/
def depthLimit : Nat := 79

/-- Names with dots between them, and blank space around them. -/
def names : Nat → Reader (List String × String)
  | 0 => failure
  | n + 1 => do
      blank
      let key ← name
      blank
      if ← Reader.accept ['.'] then
        let (path, last) ← names n
        pure (key :: path, last)
      else pure ([], key)

/-- A dotted name: its path and its last name. -/
def dottedName : Reader (List String × String) := names depthLimit

/-! ## Numbers -/

/-- Digits below a base, without the underscores between them. -/
def digitRun (base : Nat) : Reader (List Char) := do
  let cs ← Reader.span1 fun c => isDigitOf base c || c == '_'
  if cs.head? = some '_' ∨ cs.getLast? = some '_' ∨ (cs.zip cs.tail).contains ('_', '_') then
    failure
  pure (cs.filter (· != '_'))

/-- An integer of 64 bits. -/
def toInteger (n : Int) : Reader Value :=
  if -0x8000000000000000 ≤ n ∧ n < 0x8000000000000000 then pure (.integer n) else failure

/-- The exponent of a number, if there is one. -/
def exponent? : Reader (Option Int) := do
  match ← Reader.peek with
  | some 'e' | some 'E' => do
      let _ ← Reader.next
      let negative ← Number.readSign
      let ds ← digitRun 10
      pure (some (if negative then -(digits 10 ds : Int) else digits 10 ds))
  | _ => pure none

/-- Whether a number is above all finite ones. -/
def isInfinite (x : Float) : Bool := x.toBits == 0x7FF0000000000000

/-- A number in decimal digits, its sign already read.  It has no leading zeros,
and it is an integer where it has no point and no exponent. -/
def decimal (negative : Bool) : Reader Value := do
  let whole ← digitRun 10
  if whole.head? = some '0' ∧ 1 < whole.length then failure
  let point ← Reader.accept ['.']
  let part ← if point then digitRun 10 else pure []
  match ← exponent?, point with
  | none, false =>
      let n : Int := digits 10 whole
      toInteger (if negative then -n else n)
  | e, _ =>
      let d : Number.Decimal := ⟨digits 10 (whole ++ part), e.getD 0 - part.length⟩
      let x := d.toFloat negative
      if isInfinite x then failure else pure (.float x)

/-- An integer with a sign for its base in front. -/
def based (base : Nat) : Reader Value := do
  let ds ← digitRun base
  toInteger (digits base ds)

/-- A number. -/
def number : Reader Value := do
  if ← Reader.accept ['0', 'x'] then based 16
  else if ← Reader.accept ['0', 'o'] then based 8
  else if ← Reader.accept ['0', 'b'] then based 2
  else
    let negative ← Number.readSign
    if ← Reader.accept ['i', 'n', 'f'] then
      pure (.float (.ofBits (if negative then 0xFFF0000000000000 else 0x7FF0000000000000)))
    else if ← Reader.accept ['n', 'a', 'n'] then pure (.float (.ofBits 0x7FF8000000000000))
    else decimal negative

/-! ## Dates and times -/

/-- A number of so many digits, within bounds. -/
def counted (count low high : Nat) : Reader Nat := do
  let ds ← Reader.spanAtMost count Char.isDigit
  let n := digits 10 ds
  if ds.length = count ∧ low ≤ n ∧ n ≤ high then pure n else failure

/-- How many days a month has. -/
def daysIn (year month : Nat) : Nat :=
  if month = 2 then
    if year % 4 = 0 ∧ (year % 100 ≠ 0 ∨ year % 400 = 0) then 29 else 28
  else if month = 4 ∨ month = 6 ∨ month = 9 ∨ month = 11 then 30
  else 31

/-- A date. -/
def date : Reader Unit := do
  let year ← counted 4 0 9999
  Reader.expect ['-']
  let month ← counted 2 1 12
  Reader.expect ['-']
  let _ ← counted 2 1 (daysIn year month)

/-- Hours and minutes. -/
def clock : Reader Unit := do
  let _ ← counted 2 0 23
  Reader.expect [':']
  let _ ← counted 2 0 59

/-- A time of day.  A minute can have a leap second. -/
def time : Reader Unit := do
  clock
  Reader.expect [':']
  let _ ← counted 2 0 60
  if ← Reader.accept ['.'] then let _ ← Reader.span1 Char.isDigit

/-- The distance of a local time from the standard one. -/
def offset : Reader Unit := do
  match ← Reader.next with
  | 'Z' | 'z' => pure ()
  | '+' | '-' => clock
  | _ => failure

/-- A date, a time of day, or a date with a time of day. -/
def moment : Reader Value := do
  match ← Reader.attempt date with
  | none => time
  | some _ => do
      let timed ← Reader.attempt do
        let c ← Reader.next
        if c = 'T' ∨ c = 't' ∨ c = ' ' then time else failure
      if timed.isSome then let _ ← Reader.attempt offset
  pure .moment

end Colloquy.Toml
