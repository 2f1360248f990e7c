import Colloquy.Logged
import Colloquy.Script.Directive
import Colloquy.Text.Lines

/-!
# Reading a dialogue script

A script is read line by line.  Between two lines the reader holds the graph
so far, the state it is in, and where it stands: at the top level, after a line
`text:`, or inside a text block.  `Reading.step` takes one line and
`Reading.finish` closes what is open at the end.

* A state goes into the graph at `endstate`, at the next state, or at the end
  of the script.  A state without an id is dropped.  A state with a known id
  takes the place of the old one.
* Of several start lines the last counts.  Without one, or with an empty one,
  play starts at the first state of the graph.
* The lines of a text block are taken as they are, up to the closing line.  A
  block without one takes the rest of the script.
* A second text block of a state replaces the first.
-/

namespace Colloquy.Script

open Colloquy.Text

/-- Where the reader stands between two lines. -/
inductive Position where
  /-- Every line is a directive. -/
  | top
  /-- The last line announced a text block. -/
  | announced (textLine : Nat)
  /-- A text block is open.  The lines of the body stand last first. -/
  | inside (textLine openLine : Nat) (body : List (List Char))
deriving Repr, DecidableEq, Inhabited

/-- What the reader holds between two lines. -/
structure Reading where
  /-- The states that are complete, and the start line. -/
  graph : Graph := {}
  /-- The state that is open. -/
  current : Option Node := none
  /-- Where the reader stands. -/
  position : Position := .top
deriving Repr, DecidableEq, Inhabited

namespace Reading

/-- The open state put into the graph. -/
def commit (r : Reading) : Logged Reading :=
  match r.current with
  | none => pure r
  | some node =>
      if node.id = "" then do
        Logged.say .unnamedState
        pure { r with current := none }
      else pure { r with graph := r.graph.insert node, current := none }

/-- The text of the open state set to a body, given last line first. -/
def setText (r : Reading) (textLine : Nat) (body : List (List Char)) : Logged Reading :=
  match r.current with
  | some node =>
      pure { r with
        current := some { node with text := String.ofList (unpieces body.reverse) }
        position := .top }
  | none => do
      Logged.say (.textOutsideState textLine)
      pure { r with position := .top }

/-- One more choice of the open state. -/
def addChoice (r : Reading) (line : Nat) (choice : Choice) : Logged Reading :=
  match r.current with
  | some node =>
      pure { r with current := some { node with choices := node.choices ++ [choice] } }
  | none => do
      Logged.say (.choiceOutsideState line)
      pure r

/-- A directive at the top level. -/
def obey (r : Reading) (line : Nat) : Directive → Logged (Except Fault Reading)
  | .nothing => pure (.ok r)
  | .start id => pure (.ok { r with graph := { r.graph with start := String.ofList id } })
  | .state id => do
      let r ← r.commit
      pure (.ok { r with current := some { id := String.ofList id } })
  | .text => pure (.ok { r with position := .announced line })
  | .choice body =>
      match readChoice body line with
      | .error fault => pure (.error fault)
      | .ok choice => .ok <$> r.addChoice line choice
  | .endState => .ok <$> r.commit
  | .unknown => do
      Logged.say (.unknownDirective line)
      pure (.ok r)

/-- One line, with its number. -/
def step (r : Reading) (line : Nat) (cs : List Char) : Logged (Except Fault Reading) :=
  match r.position with
  | .top => r.obey line (Directive.ofLine cs)
  | .announced textLine =>
      if trim cs = openMark then pure (.ok { r with position := .inside textLine line [] })
      else pure (.error (.missingOpen line))
  | .inside textLine openLine body =>
      if trim cs = closeMark then .ok <$> r.setText textLine body
      else pure (.ok { r with position := .inside textLine openLine (cs :: body) })

/-- All lines from one with a given number on. -/
def steps (r : Reading) (line : Nat) : List (List Char) → Logged (Except Fault Reading)
  | [] => pure (.ok r)
  | cs :: rest => (r.step line cs).andThen fun r => r.steps (line + 1) rest

/-- The block closed that is open at the end of the script. -/
def closeBlock (r : Reading) : Logged (Except Fault Reading) :=
  match r.position with
  | .top => pure (.ok r)
  | .announced textLine => pure (.error (.endAfterText textLine))
  | .inside textLine openLine body => do
      Logged.say (.unclosedText openLine)
      .ok <$> r.setText textLine body

end Reading

/-- The graph with a start, the first state where none is named. -/
def Graph.started (g : Graph) : Except Fault Graph :=
  if g.start = "" then
    match g.nodes with
    | [] => .error .noStates
    | node :: _ => .ok { g with start := node.id }
  else .ok g

/-- The end of the script. -/
def Reading.finish (r : Reading) : Logged (Except Fault Graph) :=
  r.closeBlock.andThen fun r => do
    let r ← r.commit
    pure r.graph.started

/-- The graph of a script given as lines. -/
def readLines (ls : List (List Char)) : Logged (Except Fault Graph) :=
  (Reading.steps {} 1 ls).andThen Reading.finish

/-- The graph of a script. -/
def read (source : String) : Logged (Except Fault Graph) := readLines (lines source.toList)

end Colloquy.Script
