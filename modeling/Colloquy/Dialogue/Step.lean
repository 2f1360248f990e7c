import Colloquy.Dialogue.Cursor

/-!
# Steps of a dialogue

A dialogue seen without its selection: the state, whether there is a key, and
whether it has ended.  It ends at a node without choices, or through a choice
whose target is the end word.  Any other choice leads to its target.  A locked
choice needs the key.  Nothing follows the end.
-/

namespace Colloquy.Dialogue

open Colloquy.Script

/-- Where a dialogue stands. -/
structure Standing where
  /-- The id of the current state. -/
  state : String
  /-- Whether the player has the key. -/
  key : Bool := false
  /-- Whether the dialogue has ended. -/
  finished : Bool := false
deriving Repr, DecidableEq, Inhabited

/-- Where the dialogue of a cursor stands. -/
def Cursor.standing (c : Cursor) : Standing := ⟨c.state, c.key, c.finished⟩

/-- Whether a player with or without the key can take a choice. -/
def IsOpen (rules : Gating) (key : Bool) (choice : Choice) : Prop :=
  rules.isLocked choice.label = true → key = true

/-- One step of a dialogue. -/
inductive Step (d : Dialogue) : Standing → Standing → Prop where
  /-- The end at a node without choices. -/
  | stop {s : String} {k : Bool} {node : Node} :
      d.graph.get? s = some node → node.choices = [] → Step d ⟨s, k, false⟩ ⟨s, k, true⟩
  /-- The end through a choice. -/
  | leave {s : String} {k : Bool} {node : Node} {choice : Choice} :
      d.graph.get? s = some node → choice ∈ node.choices → IsOpen d.rules k choice →
      choice.next = d.rules.endWord → Step d ⟨s, k, false⟩ ⟨s, k, true⟩
  /-- A choice that leads on. -/
  | go {s : String} {k : Bool} {node : Node} {choice : Choice} :
      d.graph.get? s = some node → choice ∈ node.choices → IsOpen d.rules k choice →
      choice.next ≠ d.rules.endWord →
      Step d ⟨s, k, false⟩ ⟨choice.next, k || choice.next == d.rules.keyState, false⟩

/-- Where a dialogue can come to stand. -/
inductive CanStand (d : Dialogue) : Standing → Prop where
  /-- At the start. -/
  | start : CanStand d ⟨d.graph.start, false, false⟩
  /-- One step further. -/
  | step {s t : Standing} : CanStand d s → Step d s t → CanStand d t

end Colloquy.Dialogue
