import Colloquy.Proofs.Script.Items
import Mathlib.Data.List.Nodup

/-!
# Scripts as blocks

A block of a script runs from a state line to the next state line, to the line
that ends the state, or to the end of the script.  What lies in no block is stray.

A script without a faulty line is read as its blocks (`read_blocks`).  Its graph
has a node for each id of a block, in the order of the first blocks.  The node
holds what the last block with the id holds, and nothing of the blocks before.
Stray choices and text blocks are warned of, once each, and leave no trace.

The reader goes through a script once, with one state open.  What it has put into
its graph and what it still has open are together the blocks it has seen the
state line of (`Reading.nodes_afterAll`).
-/

namespace Colloquy.Script

open Colloquy.Text

/-! ## Blocks -/

namespace Item

/-- Whether an item can be part of a block: it begins no state and ends none. -/
def isInner : Item → Bool
  | .state _ | .endState => false
  | _ => true

/-- The id of a start line. -/
def start? : Item → Option String
  | .start id => some id
  | _ => none

/-- The body of a text block. -/
def text? : Item → Option String
  | .text body => some body
  | _ => none

/-- The choice of a choice line. -/
def choice? : Item → Option Choice
  | .choice c => some c
  | _ => none

end Item

/-- Items up to the next that begins a state or ends one. -/
def inners (items : List (Nat × Item)) : List (Nat × Item) :=
  items.takeWhile fun item => item.2.isInner

/-- A block of a script. -/
structure Block where
  /-- The id on the state line. -/
  id : String
  /-- The items behind the state line. -/
  items : List (Nat × Item)
deriving Repr, DecidableEq

namespace Block

/-- The choices of a block, in script order. -/
def choices (b : Block) : List Choice := b.items.filterMap fun item => item.2.choice?

/-- The body of the last text block of a block. -/
def text (b : Block) : String := (b.items.filterMap fun item => item.2.text?).getLast?.getD ""

/-- The node a block stands for. -/
def node (b : Block) : Node := { id := b.id, text := b.text, choices := b.choices }

end Block

/-- The blocks of items. -/
def blocks : List (Nat × Item) → List Block
  | [] => []
  | (_, .state id) :: items => ⟨id, inners items⟩ :: blocks items
  | _ :: items => blocks items

/-- The items behind the ends of states that are in no block. -/
def ownerless : List (Nat × Item) → List (Nat × Item)
  | [] => []
  | (_, .endState) :: items => inners items ++ ownerless items
  | _ :: items => ownerless items

/-- The items that are in no block. -/
def strays (items : List (Nat × Item)) : List (Nat × Item) := inners items ++ ownerless items

/-- The id on the last start line. -/
def startOf (items : List (Nat × Item)) : String :=
  (items.filterMap fun item => item.2.start?).getLast?.getD ""

theorem Item.eq_of_not_isInner {item : Item} (h : item.isInner ≠ true) :
    item = .endState ∨ ∃ id, item = .state id := by
  cases item with
  | endState => exact .inl rfl
  | state id => exact .inr ⟨id, rfl⟩
  | nothing => exact absurd rfl h
  | start id => exact absurd rfl h
  | text body => exact absurd rfl h
  | choice choice => exact absurd rfl h

theorem inners_of_not_isInner {item : Nat × Item} (h : item.2.isInner ≠ true)
    (items : List (Nat × Item)) : inners (item :: items) = [] := List.takeWhile_cons_of_neg h

section Inner

variable {item : Nat × Item} (h : item.2.isInner = true) (items : List (Nat × Item))

include h

theorem inners_of_isInner : inners (item :: items) = item :: inners items :=
  List.takeWhile_cons_of_pos h

theorem blocks_of_isInner : blocks (item :: items) = blocks items := by
  rw [blocks]
  rintro line id rfl
  cases h

theorem ownerless_of_isInner : ownerless (item :: items) = ownerless items := by
  rw [ownerless]
  rintro line rfl
  cases h

end Inner

/-! ## Nodes gathered by id -/

/-- Nodes put together, one for each id. -/
def gather (nodes : List Node) : List Node := nodes.foldl (fun ns node => insertNode node ns) []

theorem gather_concat (nodes : List Node) (node : Node) :
    gather (nodes ++ [node]) = insertNode node (gather nodes) := by
  rw [gather, List.foldl_append]
  rfl

/-- A node with a known id leaves the ids as they are. -/
theorem ids_insertNode_of_mem {node : Node} {nodes : List Node}
    (h : node.id ∈ nodes.map Node.id) :
    (insertNode node nodes).map Node.id = nodes.map Node.id := by
  induction nodes with
  | nil => cases h
  | cons m ms ih =>
      rw [insertNode]
      by_cases hm : m.id = node.id
      · rw [if_pos hm, List.map_cons, List.map_cons, hm]
      · rw [List.map_cons, List.mem_cons] at h
        rw [if_neg hm, List.map_cons, List.map_cons, ih (h.resolve_left (Ne.symm hm))]

/-- The ids of gathered nodes stand in the order they first came in. -/
theorem ids_gather (nodes : List Node) :
    (gather nodes).map Node.id = (nodes.map Node.id).eraseDups := by
  induction nodes using List.reverseRecOn with
  | nil => rfl
  | append_singleton nodes node ih =>
      rw [gather_concat, List.map_append, List.eraseDups_append, ← ih]
      have hmem : node.id ∈ (gather nodes).map Node.id ↔ node.id ∈ nodes.map Node.id := by
        rw [ih, List.mem_eraseDups]
      by_cases h : node.id ∈ nodes.map Node.id
      · have hknown : [node.id].removeAll (nodes.map Node.id) = [] := by
          simpa [List.removeAll] using h
        rw [ids_insertNode_of_mem (hmem.2 h), List.map_singleton, hknown]
        exact (List.append_nil _).symm
      · have hnew : [node.id].removeAll (nodes.map Node.id) = [node.id] := by
          simpa [List.removeAll] using h
        rw [insertNode_of_not_mem (mt hmem.1 h), List.map_append, List.map_singleton, hnew]
        rfl

theorem nodup_gather (nodes : List Node) : ((gather nodes).map Node.id).Nodup := by
  induction nodes using List.reverseRecOn with
  | nil => exact List.nodup_nil
  | append_singleton nodes node ih =>
      rw [gather_concat]
      by_cases h : node.id ∈ (gather nodes).map Node.id
      · rwa [ids_insertNode_of_mem h]
      · rw [insertNode_of_not_mem h, List.map_append, List.map_singleton]
        exact List.Nodup.append ih (List.nodup_singleton _) (List.disjoint_singleton.2 h)

/-- A node put in takes the place of the one with its id and leaves the others. -/
theorem mem_insertNode {node m : Node} {nodes : List Node} (hd : (nodes.map Node.id).Nodup)
    (h : m ∈ insertNode node nodes) : m = node ∨ m ∈ nodes ∧ m.id ≠ node.id := by
  induction nodes with
  | nil => exact .inl (List.mem_singleton.1 h)
  | cons n ns ih =>
      rw [List.map_cons, List.nodup_cons] at hd
      rw [insertNode] at h
      by_cases hn : n.id = node.id
      · rw [if_pos hn] at h
        rcases List.mem_cons.1 h with rfl | h
        · exact .inl rfl
        · refine .inr ⟨List.mem_cons_of_mem _ h, fun he => hd.1 ?_⟩
          rw [hn, ← he]
          exact List.mem_map_of_mem h
      · rw [if_neg hn] at h
        rcases List.mem_cons.1 h with rfl | h
        · exact .inr ⟨List.mem_cons_self .., hn⟩
        · rcases ih hd.2 h with rfl | ⟨h, he⟩
          · exact .inl rfl
          · exact .inr ⟨List.mem_cons_of_mem _ h, he⟩

/-- A gathered node is the last with its id. -/
theorem getLast?_of_mem_gather {nodes : List Node} {m : Node} (h : m ∈ gather nodes) :
    (nodes.filter fun n => n.id = m.id).getLast? = some m := by
  induction nodes using List.reverseRecOn with
  | nil => cases h
  | append_singleton nodes node ih =>
      rw [gather_concat] at h
      rcases mem_insertNode (nodup_gather nodes) h with rfl | ⟨h, hne⟩
      · simp
      · have hother : [node].filter (fun n => n.id = m.id) = [] := by
          simpa using Ne.symm hne
        rw [List.filter_append, hother, List.append_nil]
        exact ih h

/-! ## What a block leaves -/

/-- A node after an item of its block. -/
def Node.extend (node : Node) (item : Nat × Item) : Node :=
  { node with
    text := item.2.text?.getD node.text
    choices := node.choices ++ item.2.choice?.toList }

/-- After items of its block a node has all their choices and the last of their
texts. -/
theorem foldl_extend (items : List (Nat × Item)) : ∀ node : Node,
    items.foldl Node.extend node = { node with
      text := (items.filterMap fun item => item.2.text?).getLast?.getD node.text
      choices := node.choices ++ items.filterMap fun item => item.2.choice? } := by
  induction items with
  | nil => exact fun node => by rw [List.filterMap_nil, List.filterMap_nil, List.append_nil]; rfl
  | cons item items ih =>
      intro node
      rw [List.foldl_cons, ih]
      obtain ⟨line, item⟩ := item
      cases item <;>
        simp [Node.extend, Item.text?, Item.choice?, List.getLast?_cons]

theorem foldl_extend_inners (id : String) (items : List (Nat × Item)) :
    (inners items).foldl Node.extend { id } = (Block.mk id (inners items)).node := by
  rw [foldl_extend]
  rfl

theorem foldl_put (nodes : List Node) :
    nodes.foldl put [] = gather (nodes.filter fun node => node.id ≠ "") := by
  rw [gather, List.foldl_filter]
  congr 1
  funext ns node
  by_cases h : node.id = ""
  · simp [put, h]
  · simp [put, h]

namespace Reading

/-- An item of a block is added to the open state and leaves the nodes alone. -/
theorem after_of_isInner (r : Reading) {item : Nat × Item} (h : item.2.isInner = true) :
    (r.after item.2).current = r.current.map (Node.extend · item) ∧
      (r.after item.2).graph.nodes = r.graph.nodes := by
  obtain ⟨line, item⟩ := item
  obtain ⟨graph, current, position⟩ := r
  cases item with
  | state id => cases h
  | endState => cases h
  | _ => cases current <;> simp [after, Node.extend, Item.text?, Item.choice?]

/-- The nodes at the end are those there were, with the open state as its block
goes on and with the blocks that follow. -/
theorem nodes_afterAll (items : List (Nat × Item)) : ∀ r : Reading,
    (r.afterAll items).commit.value.graph.nodes =
      ((r.current.map fun node => (inners items).foldl Node.extend node).toList ++
        (blocks items).map Block.node).foldl put r.graph.nodes := by
  induction items with
  | nil =>
      intro r
      rw [show r.afterAll [] = r from rfl, value_commit]
      simp [inners, blocks]
  | cons item items ih =>
      intro r
      rw [afterAll_cons, ih]
      by_cases h : item.2.isInner = true
      · obtain ⟨hcurrent, hnodes⟩ := r.after_of_isInner h
        rw [inners_of_isInner h, blocks_of_isInner h, hcurrent, hnodes, Option.map_map]
        rfl
      · -- what is open is put in, and a new state begins a block of its own
        rw [inners_of_not_isInner h]
        obtain ⟨line, item⟩ := item
        rcases Item.eq_of_not_isInner h with rfl | ⟨id, rfl⟩
        · simp only [after, value_commit, blocks, Option.map_none, Option.toList_none,
            List.foldl_nil, Option.map_id_fun', id_eq, List.foldl_append]
        · simp only [after, value_commit, blocks, Option.map_some, foldl_extend_inners,
            Option.toList_some, List.foldl_nil, Option.map_id_fun', id_eq, List.map_cons,
            List.foldl_append, List.foldl_cons]

/-- The start at the end is that of the last start line, if there is one. -/
theorem start_afterAll (items : List (Nat × Item)) : ∀ r : Reading,
    (r.afterAll items).commit.value.graph.start =
      (items.filterMap fun item => item.2.start?).getLast?.getD r.graph.start := by
  induction items with
  | nil =>
      intro r
      rw [value_commit]
      rfl
  | cons item items ih =>
      intro r
      rw [afterAll_cons, ih]
      obtain ⟨line, item⟩ := item
      cases item <;> simp [after, Item.start?, value_commit, List.getLast?_cons]

/-- The warnings are those of the strays, or of the items behind the ends of states
where a state is open. -/
theorem warnings_eq (items : List (Nat × Item)) : ∀ r : Reading,
    r.warnings items = (if r.current = none then strays items else ownerless items).filterMap
      fun item => item.2.warning? item.1 := by
  induction items with
  | nil =>
      intro r
      rw [warnings]
      split <;> rfl
  | cons item items ih =>
      intro r
      rw [warnings, ih]
      by_cases h : item.2.isInner = true
      · have hopen := (r.after_of_isInner h).1
        rw [strays, strays, inners_of_isInner h, ownerless_of_isInner h]
        cases hr : r.current with
        | none =>
            rw [hr, Option.map_none] at hopen
            rw [warning, if_pos hr, if_pos hopen, if_pos rfl]
            cases hw : item.2.warning? item.1 <;> simp [hw]
        | some node =>
            rw [hr, Option.map_some] at hopen
            rw [warning, hr, hopen, if_neg (Option.some_ne_none _), if_neg (Option.some_ne_none _),
              if_neg (Option.some_ne_none _)]
            rfl
      · rw [strays, strays, inners_of_not_isInner h]
        obtain ⟨line, item⟩ := item
        rcases Item.eq_of_not_isInner h with rfl | ⟨id, rfl⟩
        · simp [after, warning, Item.warning?, ownerless, value_commit]
        · simp [after, warning, Item.warning?, ownerless]

end Reading

/-! ## The graph of a script -/

/-- A graph holds blocks: it has a node for each id among theirs that is not empty,
in the order of the first blocks, and the node is what the last block with that
id says. -/
structure Graph.Holds (g : Graph) (bs : List Block) : Prop where
  /-- The ids of the nodes. -/
  ids : g.nodes.map Node.id = ((bs.map Block.id).filter (· ≠ "")).eraseDups
  /-- The text and the choices of a node. -/
  last : ∀ node ∈ g.nodes, ∃ b, (bs.filter fun b => b.id = node.id).getLast? = some b ∧
    node.text = b.text ∧ node.choices = b.choices

theorem Graph.holds_of_nodes_eq {g : Graph} {bs : List Block}
    (h : g.nodes = (bs.map Block.node).foldl put []) : g.Holds bs := by
  rw [foldl_put] at h
  constructor
  · rw [h, ids_gather, List.filter_map, List.map_map, List.filter_map]
    rfl
  · intro node hnode
    rw [h] at hnode
    have hlast := getLast?_of_mem_gather hnode
    have hnamed : node.id ≠ "" := by
      have hmem := List.mem_of_getLast? hlast
      simpa using (List.mem_filter.1 (List.mem_filter.1 hmem).1).2
    have hboth : ∀ n ∈ bs.map Block.node,
        (decide (n.id = node.id) && decide (n.id ≠ "")) = decide (n.id = node.id) := by
      intro n _
      by_cases he : n.id = node.id
      · simp [he, hnamed]
      · simp [he]
    rw [List.filter_filter, List.filter_congr hboth, List.filter_map, List.getLast?_map] at hlast
    obtain ⟨b, hb, rfl⟩ := Option.map_eq_some_iff.1 hlast
    exact ⟨b, hb, rfl, rfl⟩

theorem Graph.nodes_eq_nil_iff {g : Graph} {bs : List Block} (h : g.Holds bs) :
    g.nodes = [] ↔ ∀ b ∈ bs, b.id = "" := by
  have hids := h.ids
  constructor
  · intro hnil b hb
    by_contra hne
    have hmem : b.id ∈ g.nodes.map Node.id := by
      rw [hids, List.mem_eraseDups, List.mem_filter]
      exact ⟨List.mem_map_of_mem hb, by simpa using hne⟩
    rw [hnil] at hmem
    cases hmem
  · intro hall
    have hnone : (bs.map Block.id).filter (· ≠ "") = [] := by
      simpa [List.filter_eq_nil_iff] using hall
    rw [hnone] at hids
    exact List.map_eq_nil_iff.1 hids

theorem Graph.started_eq_noStates_iff {g : Graph} :
    g.started = .error .noStates ↔ g.start = "" ∧ g.nodes = [] := by
  rw [Graph.started]
  by_cases hs : g.start = ""
  · rw [if_pos hs]
    cases g.nodes with
    | nil => simp [hs]
    | cons node nodes => simp
  · rw [if_neg hs]
    simp [hs]

/-- A graph is started where its start line says, or at its first node. -/
theorem Graph.started_eq_ok {g g' : Graph} (h : g.started = .ok g') :
    g'.nodes = g.nodes ∧ (g.start ≠ "" → g'.start = g.start) ∧
      (g.start = "" → (g'.nodes.map Node.id).head? = some g'.start) := by
  rw [Graph.started] at h
  by_cases hs : g.start = ""
  · rw [if_pos hs] at h
    cases hn : g.nodes with
    | nil =>
        rw [hn] at h
        cases h
    | cons node nodes =>
        rw [hn] at h
        cases h
        exact ⟨rfl, fun he => absurd hs he, fun _ => rfl⟩
  · rw [if_neg hs] at h
    cases h
    exact ⟨rfl, fun _ => rfl, fun he => absurd he hs⟩

/-- A script is read as its blocks. -/
theorem read_blocks (source : String) :
    ((∃ items, Outline 1 (lines source.toList) items) ↔
      ∀ fault, (read source).value = .error fault → fault = .noStates) ∧
    ((read source).value = .error .noStates ↔
      ∃ items, Outline 1 (lines source.toList) items ∧ startOf items = "" ∧
        ∀ b ∈ blocks items, b.id = "") ∧
    ∀ items, Outline 1 (lines source.toList) items →
      (read source).notices.filter Notice.isOutside =
        (strays items).filterMap (fun item => item.2.warning? item.1) ∧
      ∀ g, (read source).value = .ok g → g.Holds (blocks items) ∧
        (startOf items ≠ "" → g.start = startOf items) ∧
        (startOf items = "" → (g.nodes.map Node.id).head? = some g.start) := by
  have hgraph : ∀ {items}, Outline 1 (lines source.toList) items →
      ∃ made : Graph, (read source).value = made.started ∧ made.Holds (blocks items) ∧
        made.start = startOf items := by
    intro items h
    refine ⟨_, h.value_readLines, Graph.holds_of_nodes_eq ?_, ?_⟩
    · exact Reading.nodes_afterAll items {}
    · exact Reading.start_afterAll items {}
  refine ⟨exists_outline_iff _, ⟨fun hread => ?_, ?_⟩, fun items h => ⟨?_, fun g hg => ?_⟩⟩
  · obtain ⟨items, h⟩ := (exists_outline_iff (lines source.toList)).2 fun fault hfault => by
      rw [read] at hread
      exact Except.error.inj (hfault.symm.trans hread)
    obtain ⟨made, hvalue, hholds, hstart⟩ := hgraph h
    obtain ⟨hempty, hnil⟩ := Graph.started_eq_noStates_iff.1 (hvalue.symm.trans hread)
    exact ⟨items, h, hstart.symm.trans hempty, (Graph.nodes_eq_nil_iff hholds).1 hnil⟩
  · rintro ⟨items, h, hempty, hall⟩
    obtain ⟨made, hvalue, hholds, hstart⟩ := hgraph h
    rw [hvalue, Graph.started_eq_noStates_iff]
    exact ⟨hstart.trans hempty, (Graph.nodes_eq_nil_iff hholds).2 hall⟩
  · exact h.warned_readLines.trans (Reading.warnings_eq items {})
  · obtain ⟨made, hvalue, hholds, hstart⟩ := hgraph h
    obtain ⟨hnodes, hnamed, hfirst⟩ := Graph.started_eq_ok (hvalue.symm.trans hg)
    rw [hstart] at hnamed hfirst
    exact ⟨⟨hnodes ▸ hholds.ids, hnodes ▸ hholds.last⟩, hnamed, hfirst⟩

/-- A script with two blocks of one id, a choice between them that is in neither,
and a body that looks like a block. -/
def repeated : String :=
  "state: a\noption: Old -> b\nendstate\noption: Lost -> a\nstate: a\n" ++
    "text:\n<<<\nstate: c\n>>>\noption: New -> b\n"

/-- The items of that script. -/
def repeatedItems : List (Nat × Item) :=
  [(1, .state "a"), (2, .choice ⟨"Old", "b"⟩), (3, .endState), (4, .choice ⟨"Lost", "a"⟩),
    (5, .state "a"), (6, .text "state: c"), (10, .choice ⟨"New", "b"⟩)]

theorem outline_repeated : Outline 1 (lines repeated.toList) repeatedItems := by
  have hlines : lines repeated.toList = ["state: a".toList] ++ (["option: Old -> b".toList] ++
      (["endstate".toList] ++ (["option: Lost -> a".toList] ++ (["state: a".toList] ++
        ((["text:".toList, "<<<".toList, "state: c".toList] ++ [">>>".toList]) ++
          (["option: New -> b".toList] ++ [])))))) := by decide
  have hold : Stands ["option: Old -> b".toList] (.choice ⟨"Old", "b"⟩) :=
    .choice (show _ = Directive.choice "Old -> b".toList by decide)
      (show _ = some ("Old ".toList, " b".toList) by decide) (by decide) (by decide)
  have hlost : Stands ["option: Lost -> a".toList] (.choice ⟨"Lost", "a"⟩) :=
    .choice (show _ = Directive.choice "Lost -> a".toList by decide)
      (show _ = some ("Lost ".toList, " a".toList) by decide) (by decide) (by decide)
  have hnew : Stands ["option: New -> b".toList] (.choice ⟨"New", "b"⟩) :=
    .choice (show _ = Directive.choice "New -> b".toList by decide)
      (show _ = some ("New ".toList, " b".toList) by decide) (by decide) (by decide)
  have hopens : OpensText ["text:".toList, "<<<".toList, "state: c".toList] "state: c" :=
    .mk (by decide) (by decide) (by decide)
  have hstate : Stands ["state: a".toList] (.state "a") :=
    .state (show _ = Directive.state ['a'] by decide)
  rw [hlines]
  refine .cons hstate (.cons hold (.cons (.endState (by decide)) ?_))
  exact .cons hlost (.cons hstate (.cons (.text hopens (by decide)) (.cons hnew (.nil _))))

/-- The graph of that script. -/
def repeatedGraph : Graph := { start := "a", nodes := [⟨"a", "state: c", [⟨"New", "b"⟩]⟩] }

/-- The second block is all that is left of the two, and the choice between them is
warned of. -/
theorem read_blocks_repeated :
    Outline 1 (lines repeated.toList) repeatedItems ∧
    (read repeated).notices.filter Notice.isOutside = [.choiceOutsideState 4] ∧
    (blocks repeatedItems).map Block.choices = [[⟨"Old", "b"⟩], [⟨"New", "b"⟩]] ∧
    (read repeated).value = .ok repeatedGraph ∧ repeatedGraph.Holds (blocks repeatedItems) := by
  have hvalue : (read repeated).value = .ok repeatedGraph := by decide
  obtain ⟨-, -, hall⟩ := read_blocks repeated
  obtain ⟨hwarned, hgraph⟩ := hall _ outline_repeated
  exact ⟨outline_repeated, hwarned, by decide, hvalue, (hgraph _ hvalue).1⟩

end Colloquy.Script
