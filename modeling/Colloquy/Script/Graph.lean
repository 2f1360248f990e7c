/-!
# Dialogue graphs

A graph is a list of nodes in the order their ids were first seen, with the id
play starts at.  An edge is the id of its target.  It is resolved by lookup, so
a dangling edge is a lookup that finds nothing.

`Graph.insert` keeps one node per id.  A node with a known id takes the place
of the old one.
-/

namespace Colloquy.Script

/-- A choice offered to the player. -/
structure Choice where
  /-- The label, a lock marker in front included. -/
  label : String
  /-- The id of the target, or the word that ends the dialogue. -/
  next : String
deriving Repr, DecidableEq, Inhabited

/-- One state of the dialogue. -/
structure Node where
  /-- The id. -/
  id : String
  /-- The body, its paragraphs separated by newlines. -/
  text : String := ""
  /-- The choices, in script order. -/
  choices : List Choice := []
deriving Repr, DecidableEq, Inhabited

/-- A dialogue. -/
structure Graph where
  /-- The nodes, ids in the order first seen. -/
  nodes : List Node := []
  /-- The id play starts at. -/
  start : String := ""
deriving Repr, DecidableEq, Inhabited

/-- A node put into a list of nodes, in place of the one with its id if there
is one and at the end otherwise. -/
def insertNode (node : Node) : List Node → List Node
  | [] => [node]
  | m :: ms => if m.id = node.id then node :: ms else m :: insertNode node ms

namespace Graph

/-- The node with an id. -/
def get? (g : Graph) (id : String) : Option Node := g.nodes.find? fun n => n.id = id

/-- Whether an id names a node. -/
def contains (g : Graph) (id : String) : Bool := g.nodes.any fun n => n.id = id

/-- The number of nodes. -/
def size (g : Graph) : Nat := g.nodes.length

/-- A graph without nodes. -/
def isEmpty (g : Graph) : Bool := g.nodes.isEmpty

/-- The graph with a node put in. -/
def insert (g : Graph) (node : Node) : Graph := { g with nodes := insertNode node g.nodes }

end Graph

end Colloquy.Script
