import Colloquy.Script.Graph

/-!
# Paths in a dialogue graph

A node leads to another where one of its choices has the other's id for its
target.  What a player could ever see lies on a path from the start, whatever
is locked on the way.
-/

namespace Colloquy.Script.Graph

/-- Paths of choices from one node of a graph to another. -/
inductive Leads (g : Graph) : Node → Node → Prop where
  /-- The path without choices. -/
  | here (n : Node) : Leads g n n
  /-- A path with one more choice. -/
  | choice {n m k : Node} {c : Choice} :
      Leads g n m → c ∈ m.choices → g.get? c.next = some k → Leads g n k

/-- A node on a path from the start. -/
def OnPath (g : Graph) (n : Node) : Prop := ∃ s, g.get? g.start = some s ∧ g.Leads s n

end Colloquy.Script.Graph
