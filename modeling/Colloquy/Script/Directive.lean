import Colloquy.Script.Fault
import Colloquy.Script.Graph
import Colloquy.Text.Blank

/-!
# Directives

Outside a text block every line of a script stands for one directive.  Blanks
at its ends do not count.  Empty lines and comments, which start with `#` or
`//`, stand for nothing.  A line that is no directive stands for nothing
either, but is worth a notice.

A choice is written `label -> target`.  The first arrow divides it, so a target
can hold arrows and a label cannot.
-/

namespace Colloquy.Script

open Colloquy.Text

/-! ## The words of the format -/

/-- The word before the id of the start state. -/
def startKey : List Char := ['s', 't', 'a', 'r', 't', ':']

/-- The word before the id of a state. -/
def stateKey : List Char := ['s', 't', 'a', 't', 'e', ':']

/-- The line that announces a text block. -/
def textKey : List Char := ['t', 'e', 'x', 't', ':']

/-- The word before a choice. -/
def choiceKey : List Char := ['o', 'p', 't', 'i', 'o', 'n', ':']

/-- The line that ends a state. -/
def endKey : List Char := ['e', 'n', 'd', 's', 't', 'a', 't', 'e']

/-- The line that opens a text block. -/
def openMark : List Char := ['<', '<', '<']

/-- The line that closes a text block. -/
def closeMark : List Char := ['>', '>', '>']

/-- What divides the label of a choice from its target. -/
def arrow : List Char := ['-', '>']

/-! ## Lines as directives -/

/-- What a line stands for. -/
inductive Directive where
  /-- An empty line or a comment. -/
  | nothing
  /-- The id of the start state. -/
  | start (id : List Char)
  /-- A new state with its id. -/
  | state (id : List Char)
  /-- A text block follows. -/
  | text
  /-- A choice, not yet divided. -/
  | choice (body : List Char)
  /-- The end of a state. -/
  | endState
  /-- No directive. -/
  | unknown
deriving Repr, DecidableEq, Inhabited

/-- Whether a trimmed line is a comment. -/
def isComment (cs : List Char) : Bool := ['#'].isPrefixOf cs || ['/', '/'].isPrefixOf cs

/-- The directive of a line. -/
def Directive.ofLine (line : List Char) : Directive :=
  let cs := trim line
  if cs = [] ∨ isComment cs then .nothing
  else if let some id := startKey.isPrefixOf? cs then .start (trim id)
  else if let some id := stateKey.isPrefixOf? cs then .state (trim id)
  else if cs = textKey then .text
  else if let some body := choiceKey.isPrefixOf? cs then .choice (trim body)
  else if cs = endKey then .endState
  else .unknown

/-! ## Choices -/

/-- A text divided at its first arrow. -/
def splitArrow : List Char → Option (List Char × List Char)
  | [] => none
  | c :: cs =>
      match arrow.isPrefixOf? (c :: cs) with
      | some rest => some ([], rest)
      | none => (splitArrow cs).map fun (label, next) => (c :: label, next)

/-- A choice read from its body, on a line of the script. -/
def readChoice (body : List Char) (line : Nat) : Except Fault Choice :=
  match splitArrow body with
  | none => .error (.missingArrow line)
  | some (label, next) =>
      let label := trim label
      let next := trim next
      if label = [] ∨ next = [] then .error (.emptyPart line)
      else .ok ⟨String.ofList label, String.ofList next⟩

end Colloquy.Script
