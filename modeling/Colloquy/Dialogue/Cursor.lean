import Colloquy.Dialogue.Gating
import Colloquy.Logged
import Colloquy.Script.Graph

/-!
# A cursor in a dialogue

A dialogue is a graph with its gating rules.  The cursor holds the state the
player is at, the selected choice, whether the dialogue has ended and whether
the player has the key.  The state need not name a node.  Nothing moves then.

The player moves the selection, selects a choice, or confirms the selected one.
`Dialogue.act` does one of the three, and `Dialogue.run` any number of them.
-/

namespace Colloquy

open Colloquy.Script

/-- A graph with its gating rules. -/
structure Dialogue where
  /-- The graph. -/
  graph : Graph
  /-- The rules. -/
  rules : Dialogue.Gating := {}
deriving Repr, DecidableEq, Inhabited

namespace Dialogue

/-- Where a player is. -/
structure Cursor where
  /-- The id of the current state. -/
  state : String
  /-- The selected choice, counted from zero. -/
  selected : Nat := 0
  /-- Whether the dialogue has ended. -/
  finished : Bool := false
  /-- Whether the player has the key. -/
  key : Bool := false
deriving Repr, DecidableEq, Inhabited

/-- What came of confirming a choice. -/
inductive Outcome where
  /-- The dialogue has ended before, or there is nothing to confirm. -/
  | ignored
  /-- The choice is locked. -/
  | locked
  /-- The dialogue has ended. -/
  | finished
  /-- The player is at the target of the choice. -/
  | moved
deriving Repr, DecidableEq, Inhabited

/-- What a player can do. -/
inductive Action where
  /-- Move the selection. -/
  | move (delta : Int32)
  /-- Select a choice. -/
  | select (index : Nat)
  /-- Confirm the selected choice. -/
  | confirm
deriving Repr, DecidableEq, Inhabited

/-- The cursor at the start. -/
def begin (d : Dialogue) : Cursor := { state := d.graph.start }

/-- The node the cursor is at. -/
def node? (d : Dialogue) (c : Cursor) : Option Node := d.graph.get? c.state

/-- The selection moved along the choices.  Past either end it goes on at the
other. -/
def move (d : Dialogue) (c : Cursor) (delta : Int32) : Cursor :=
  if c.finished then c
  else match d.node? c with
    | none => c
    | some node =>
        if node.choices = [] then c
        else { c with selected := ((c.selected + delta.toInt) % node.choices.length).toNat }

/-- Whether the current node has a choice with an index. -/
def hasChoice (d : Dialogue) (c : Cursor) (index : Nat) : Bool :=
  match d.node? c with
  | none => false
  | some node => index < node.choices.length

/-- The choice with an index selected, if there is one. -/
def select (d : Dialogue) (c : Cursor) (index : Nat) : Cursor :=
  if d.hasChoice c index then { c with selected := index } else c

/-- The cursor at the target of a choice. -/
def follow (d : Dialogue) (c : Cursor) (choice : Choice) : Logged Cursor := do
  let found := choice.next = d.rules.keyState ∧ c.key = false
  Logged.sayIf found (.unlocked choice.next)
  pure { c with state := choice.next, selected := 0, key := c.key || decide found }

/-- The selected choice confirmed. -/
def confirm (d : Dialogue) (c : Cursor) : Logged (Outcome × Cursor) :=
  if c.finished then pure (.ignored, c)
  else match d.node? c with
    | none => pure (.ignored, c)
    | some node =>
        if node.choices = [] then do
          Logged.say (.endedWithoutChoices node.id)
          pure (.finished, { c with finished := true })
        else match node.choices[c.selected]? with
          | none => pure (.ignored, c)
          | some choice =>
              if d.rules.isLocked choice.label ∧ c.key = false then do
                Logged.say (.refused choice.label)
                pure (.locked, c)
              else if choice.next = d.rules.endWord then do
                Logged.say (.ended node.id)
                pure (.finished, { c with finished := true })
              else do
                let c ← d.follow c choice
                pure (.moved, c)

/-- The cursor after an action. -/
def act (d : Dialogue) (c : Cursor) : Action → Cursor
  | .move delta => d.move c delta
  | .select index => d.select c index
  | .confirm => (d.confirm c).value.2

/-- The cursor after any number of actions. -/
def run (d : Dialogue) (c : Cursor) (actions : List Action) : Cursor := actions.foldl d.act c

end Dialogue

end Colloquy
