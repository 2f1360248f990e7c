import Colloquy.Dialogue.Gating
import Colloquy.Script.Graph
import Colloquy.Typeset.Wrap

/-!
# The layout of a dialogue node

A node is laid out from top to bottom.  Its body comes first, then a gap, then
a row for each choice.  All lines are one line height apart.  A row starts half
a line height above its first baseline and is one line height high for each of
its lines.

The same layout is drawn and asked what a pointer points at, so what is clicked
is what was drawn.  On an edge shared by two rows the upper row counts.
-/

namespace Colloquy.Play

open Colloquy.Typeset (Shaper)

/-- The distances a layout keeps. -/
structure Metrics (α : Type u) where
  /-- From the left edge to the body. -/
  marginLeft : α
  /-- From the body to the right edge. -/
  marginRight : α
  /-- From the top to the first baseline. -/
  startY : α
  /-- Between two baselines. -/
  lineHeight : α
  /-- Between the body and the first choice, besides the line height. -/
  choiceGap : α
  /-- From the left of the body to the left of the choices. -/
  choiceIndent : α
deriving Repr, DecidableEq, Inhabited

/-- A line and where its pen starts. -/
structure Line (α : Type u) where
  /-- The text of the line. -/
  text : String
  /-- The pen, from the left. -/
  x : α
  /-- The baseline, from the top. -/
  baseline : α
deriving Repr, DecidableEq, Inhabited

/-- The row of a choice. -/
structure Row (α : Type u) where
  /-- The index of the choice. -/
  index : Nat
  /-- The upper edge. -/
  top : α
  /-- The lower edge. -/
  bottom : α
  /-- The lines of the label. -/
  lines : List (Line α)
deriving Repr, DecidableEq, Inhabited

/-- A node laid out. -/
structure Layout (α : Type u) where
  /-- The lines of the body. -/
  body : List (Line α)
  /-- The rows, one for each choice. -/
  rows : List (Row α)
deriving Repr, DecidableEq, Inhabited

section Width

variable {α : Type u} [Sub α] [NatCast α]

/-- How wide the body can be in a viewport. -/
def Metrics.bodyWidth (m : Metrics α) (viewport : Nat) : α :=
  (viewport : α) - m.marginLeft - m.marginRight

/-- How wide a label can be in a viewport. -/
def Metrics.choiceWidth (m : Metrics α) (viewport : Nat) : α :=
  m.bodyWidth viewport - m.choiceIndent

end Width

section Stack

variable {α : Type u} [Add α]

/-- Texts as lines one below the other. -/
def stack (x lineHeight baseline : α) : List String → List (Line α)
  | [] => []
  | text :: rest => ⟨text, x, baseline⟩ :: stack x lineHeight (baseline + lineHeight) rest

/-- The baseline after a number of lines. -/
def below (lineHeight baseline : α) : Nat → α
  | 0 => baseline
  | n + 1 => below lineHeight (baseline + lineHeight) n

end Stack

section Hit

variable {α : Type u} [LE α] [DecidableLE α]

/-- Whether a height lies in a row, its edges included. -/
def Row.holds (r : Row α) (y : α) : Bool := r.top ≤ y && y ≤ r.bottom

/-- The choice at a height. -/
def Layout.choiceAt? (l : Layout α) (y : α) : Option Nat :=
  (l.rows.find? fun r => r.holds y).map Row.index

end Hit

namespace Layout

variable {α : Type u} [Zero α] [Add α] [Sub α] [Mul α] [Div α] [NatCast α] [LE α]
  [DecidableLE α]

/-- The row of a choice with its first baseline. -/
def row (m : Metrics α) (index : Nat) (baseline : α) (texts : List String) : Row α :=
  let top := baseline - m.lineHeight / ((2 : Nat) : α)
  { index, top
    bottom := top + m.lineHeight * ((texts.length : Nat) : α)
    lines := stack (m.marginLeft + m.choiceIndent) m.lineHeight baseline texts }

/-- The rows of labels given as lines, with the first index and baseline. -/
def rowsFrom (m : Metrics α) (index : Nat) (baseline : α) : List (List String) → List (Row α)
  | [] => []
  | texts :: rest =>
      row m index baseline texts ::
        rowsFrom m (index + 1) (below m.lineHeight baseline texts.length) rest

/-- A node laid out for a player with or without the key. -/
def ofNode (node : Script.Node) (shaper : Shaper α) (m : Metrics α) (viewport : Nat)
    (rules : Dialogue.Gating) (hasKey : Bool) : Layout α :=
  let body := shaper.wrap node.text (m.bodyWidth viewport)
  let labels := node.choices.map fun c =>
    shaper.wrap (rules.shown hasKey c.label) (m.choiceWidth viewport)
  { body := stack m.marginLeft m.lineHeight m.startY body
    rows := rowsFrom m 0 (below m.lineHeight m.startY body.length + m.choiceGap) labels }

end Layout

end Colloquy.Play
