import Colloquy.Script.Directive
import Colloquy.Script.Graph
import Colloquy.Text.Lines

/-!
# Writing a dialogue script

A graph is written as its start line and then its nodes.  A node is written as
its state line, a text block, a line for each choice, and a line that ends it if
that is wanted.

`Graph.Writable` says what a graph has to be like for a script to hold it.  Ids,
labels and targets stand on a line with other words, so they have no newline and
no blanks at their ends.  The first arrow of a line divides it, so labels have
none.  A body is taken as it is up to the closing line, so no line of it looks
like one.
-/

namespace Colloquy.Script

open Colloquy.Text

/-- A word of the format with what it introduces. -/
def keyed (key : List Char) (value : String) : List Char := key ++ ' ' :: value.toList

/-- The line of a choice. -/
def Choice.line (c : Choice) : List Char :=
  keyed choiceKey c.label ++ ' ' :: keyed arrow c.next

/-- The lines of a node. -/
def Node.lines (ended : Bool) (n : Node) : List (List Char) :=
  [keyed stateKey n.id, textKey, openMark] ++ pieces n.text.toList ++ [closeMark] ++
    n.choices.map Choice.line ++ if ended then [endKey] else []

/-- The lines of a graph. -/
def Graph.lines (ended : Bool) (g : Graph) : List (List Char) :=
  keyed startKey g.start :: g.nodes.flatMap (Node.lines ended)

/-- A graph as a script.  Each line has a newline after it. -/
def Graph.write (ended : Bool) (g : Graph) : String :=
  String.ofList ((g.lines ended).flatMap fun l => l ++ ['\n'])

/-- A text that a line can hold beside other words. -/
structure IsWord (s : String) : Prop where
  /-- It is not empty. -/
  nonempty : s ≠ ""
  /-- It has no blanks at its ends. -/
  trimmed : trim s.toList = s.toList
  /-- It has no newline. -/
  oneLine : '\n' ∉ s.toList

/-- A choice that a script can hold. -/
structure Choice.Writable (c : Choice) : Prop where
  /-- The label is a word. -/
  label : IsWord c.label
  /-- The target is a word. -/
  next : IsWord c.next
  /-- The label has no arrow. -/
  noArrow : ¬ arrow <:+: c.label.toList

/-- A node that a script can hold. -/
structure Node.Writable (n : Node) : Prop where
  /-- The id is a word. -/
  id : IsWord n.id
  /-- The choices can be held. -/
  choices : ∀ c ∈ n.choices, c.Writable
  /-- No line of the body looks like a closing line. -/
  body : ∀ l ∈ pieces n.text.toList, trim l ≠ closeMark

/-- A graph that a script can hold. -/
structure Graph.Writable (g : Graph) : Prop where
  /-- The start is a word. -/
  start : IsWord g.start
  /-- The nodes can be held. -/
  nodes : ∀ n ∈ g.nodes, n.Writable
  /-- No two nodes have the same id. -/
  distinct : (g.nodes.map Node.id).Nodup

end Colloquy.Script
