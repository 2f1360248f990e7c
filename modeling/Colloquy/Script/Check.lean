import Colloquy.Script.Graph
import Colloquy.Script.Issue

/-!
# Checking a dialogue graph

`Graph.issues` lists what is wrong with a graph: first a start that names no
node, then the choices that lead nowhere, node by node, then the nodes no path
leads to, in the order of the graph.  A choice whose target is the word that
ends the dialogue leads somewhere.

The nodes a path leads to are found breadth first.  The walk keeps the ids it
has seen and a queue of ids to look at.  An id taken from the queue is new and
names a node, so that one node fewer is unseen, or it is dropped, so that the
queue is shorter.  That bounds the walk.
-/

namespace Colloquy.Script

/-- Nodes whose id is not among those seen. -/
def unseen (seen : List String) (nodes : List Node) : List Node :=
  nodes.filter fun n => n.id ∉ seen

/-- Seeing the id of a node leaves fewer nodes unseen. -/
theorem length_unseen_cons_lt {node : Node} {seen : List String} :
    ∀ {nodes : List Node}, node ∈ nodes → node.id ∉ seen →
      (unseen (node.id :: seen) nodes).length < (unseen seen nodes).length
  | m :: ms, hm, hs => by
    have mono : ∀ l : List Node,
        (unseen (node.id :: seen) l).length ≤ (unseen seen l).length := fun l => by
      simp only [unseen, ← List.countP_eq_length_filter]
      exact List.countP_mono_left (by simp)
    rcases List.mem_cons.1 hm with rfl | hm
    · have := mono ms
      simp [unseen, hs] at this ⊢
      omega
    · have := length_unseen_cons_lt hm hs
      simp only [unseen, List.mem_cons, List.filter_cons] at this ⊢
      by_cases h : m.id = node.id
      · simp [h, hs] at this ⊢
        omega
      · by_cases h' : m.id ∈ seen <;> simp [h, h'] at this ⊢ <;> omega

namespace Graph

/-- The node found under an id has that id. -/
theorem id_of_get? {g : Graph} {id : String} {node : Node} (h : g.get? id = some node) :
    node.id = id := by
  simpa using List.find?_some h

/-- The node found under an id is in the graph. -/
theorem mem_of_get? {g : Graph} {id : String} {node : Node} (h : g.get? id = some node) :
    node ∈ g.nodes := List.mem_of_find?_eq_some h

/-- The ids seen on a walk, starting with those in a queue. -/
def walk (g : Graph) (seen queue : List String) : List String :=
  match queue with
  | [] => seen
  | id :: rest =>
      if _hs : id ∈ seen then g.walk seen rest
      else match _hn : g.get? id with
        | none => g.walk seen rest
        | some node => g.walk (id :: seen) (rest ++ node.choices.map Choice.next)
termination_by ((unseen seen g.nodes).length, queue.length)
decreasing_by
  · exact Prod.Lex.right _ (by simp)
  · exact Prod.Lex.right _ (by simp)
  · refine Prod.Lex.left _ _ ?_
    have h := id_of_get? _hn
    subst h
    exact length_unseen_cons_lt (mem_of_get? _hn) _hs

/-- The ids of the nodes that paths from the start lead to. -/
def reached (g : Graph) : List String := g.walk [] [g.start]

/-- The choices of a node that lead nowhere. -/
def danglingOf (g : Graph) (endWord : String) (node : Node) : List Issue :=
  node.choices.zipIdx.filterMap fun (c, i) =>
    if c.next ≠ endWord ∧ ¬ g.contains c.next then some (.danglingTarget node.id i c.next)
    else none

/-- What is wrong with a graph, given the word that ends the dialogue. -/
def issues (g : Graph) (endWord : String) : List Issue :=
  let reached := g.reached
  (if g.contains g.start then [] else [.missingStart g.start]) ++
  g.nodes.flatMap (g.danglingOf endWord) ++
  (g.nodes.filter fun n => n.id ∉ reached).map fun n => .unreachable n.id

end Graph

end Colloquy.Script
