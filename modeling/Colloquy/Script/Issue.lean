/-!
# Issues of a dialogue graph

What a check of a graph can find.  None of it stops play.
-/

namespace Colloquy.Script

/-- A finding about a graph. -/
inductive Issue where
  /-- The start id names no node. -/
  | missingStart (start : String)
  /-- A choice of a node leads to an id that names no node. -/
  | danglingTarget (state : String) (option : Nat) (target : String)
  /-- No path leads from the start to a node. -/
  | unreachable (state : String)
deriving Repr, DecidableEq, Inhabited

/-- The finding in words. -/
def Issue.text : Issue → String
  | .missingStart start => s!"start state '{start}' does not exist"
  | .danglingTarget state option target =>
      s!"option {option} of state '{state}' targets unknown state '{target}'"
  | .unreachable state => s!"state '{state}' is unreachable from the start state"

end Colloquy.Script
