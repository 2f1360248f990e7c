import Colloquy.Proofs.Script.Reach
import Colloquy.Proofs.Script.Reprint
import Mathlib

/-!
# What the check of a script finds, and in which order

`Graph.Finds` says what can be found wrong with a graph, without saying how: a start that
names no node, a choice that leads nowhere, a node on no path from the start.  `Issue.rank`
says where each of these stands.

The check of a script lists just what can be found, each once and in that order, and no
other list does (`issues_eq_iff`).  That each comes once takes nodes with different ids.
The nodes of a script have them.
-/

namespace Colloquy.Script

/-- The place of the node with an id among the nodes. -/
def Graph.placeOf (g : Graph) (id : String) : Nat := (g.nodes.map Node.id).idxOf id

/-- Where an issue stands among the issues of a graph: by its kind, then by its node, then
by its choice. -/
def Issue.rank (g : Graph) : Issue → ℕ ×ₗ ℕ ×ₗ ℕ
  | .missingStart _ => toLex (0, toLex (0, 0))
  | .danglingTarget state option _ => toLex (1, toLex (g.placeOf state, option))
  | .unreachable state => toLex (2, toLex (g.placeOf state, 0))

/-- Whether an issue stands before another. -/
def Issue.Before (g : Graph) (a b : Issue) : Prop := a.rank g < b.rank g

section Before

variable {g : Graph} {start state state' target target' : String} {option option' : Nat}

theorem missingStart_before_danglingTarget :
    (Issue.missingStart start).Before g (.danglingTarget state option target) := by
  simp [Issue.Before, Issue.rank, Prod.Lex.toLex_lt_toLex]

theorem missingStart_before_unreachable :
    (Issue.missingStart start).Before g (.unreachable state) := by
  simp [Issue.Before, Issue.rank, Prod.Lex.toLex_lt_toLex]

theorem danglingTarget_before_unreachable :
    (Issue.danglingTarget state option target).Before g (.unreachable state') := by
  simp [Issue.Before, Issue.rank, Prod.Lex.toLex_lt_toLex]

/-- Choices that lead nowhere stand in the order of their nodes, those of one node in the
order of its choices. -/
theorem danglingTarget_before_iff :
    (Issue.danglingTarget state option target).Before g (.danglingTarget state' option' target') ↔
      g.placeOf state < g.placeOf state' ∨
        g.placeOf state = g.placeOf state' ∧ option < option' := by
  simp [Issue.Before, Issue.rank, Prod.Lex.toLex_lt_toLex]

theorem unreachable_before_iff :
    (Issue.unreachable state).Before g (.unreachable state') ↔
      g.placeOf state < g.placeOf state' := by
  simp [Issue.Before, Issue.rank, Prod.Lex.toLex_lt_toLex]

end Before

instance (g : Graph) : Std.Irrefl (Issue.Before g) := ⟨fun a => lt_irrefl (a.rank g)⟩

instance (g : Graph) : Std.Antisymm (Issue.Before g) :=
  ⟨fun _ _ hab hba => absurd hba (lt_asymm hab)⟩

namespace Graph

/-- What can be found wrong with a graph, given the word that ends the dialogue. -/
inductive Finds (g : Graph) (word : String) : Issue → Prop where
  /-- The start names no node. -/
  | missingStart : (∀ node ∈ g.nodes, node.id ≠ g.start) → Finds g word (.missingStart g.start)
  /-- The target of a choice is neither the word nor a node. -/
  | danglingTarget {node : Node} {choice : Choice} {option : Nat} :
      node ∈ g.nodes → node.choices[option]? = some choice → choice.next ≠ word →
      (∀ other ∈ g.nodes, other.id ≠ choice.next) →
      Finds g word (.danglingTarget node.id option choice.next)
  /-- A node is on no path from the start. -/
  | unreachable {node : Node} :
      node ∈ g.nodes → ¬ g.OnPath node → Finds g word (.unreachable node.id)

variable {g : Graph} {word : String}

/-! ## What is listed -/

theorem get?_eq_none_iff {id : String} : g.get? id = none ↔ ∀ node ∈ g.nodes, node.id ≠ id := by
  rw [get?, List.find?_eq_none]
  simp

/-- With different ids the walk misses just the nodes on no path. -/
theorem not_mem_reached_iff (hd : (g.nodes.map Node.id).Nodup) {node : Node}
    (hn : node ∈ g.nodes) : node.id ∉ g.reached ↔ ¬ g.OnPath node := by
  have hget : g.get? node.id = some node := (get?_eq_some_iff hd).2 ⟨hn, rfl⟩
  rw [mem_reached_iff, not_iff_not]
  constructor
  · rintro ⟨found, hfound, hpath⟩
    rw [hget] at hfound
    cases hfound
    exact hpath
  · exact fun hpath => ⟨node, hget, hpath⟩

theorem mem_issues_iff (hd : (g.nodes.map Node.id).Nodup) {issue : Issue} :
    issue ∈ g.issues word ↔ g.Finds word issue := by
  constructor
  · intro h
    cases issue with
    | missingStart start =>
        obtain ⟨rfl, hnone⟩ := missingStart_mem_issues.1 h
        exact .missingStart (get?_eq_none_iff.1 hnone)
    | danglingTarget state option target =>
        obtain ⟨node, hn, rfl, choice, hc, rfl, hword, hnone⟩ := danglingTarget_mem_issues.1 h
        exact .danglingTarget hn hc hword (get?_eq_none_iff.1 hnone)
    | unreachable state =>
        obtain ⟨hreached, node, hn, rfl⟩ := unreachable_mem_issues.1 h
        exact .unreachable hn ((not_mem_reached_iff hd hn).1 hreached)
  · intro h
    cases h with
    | missingStart hnone => exact missingStart_mem_issues.2 ⟨rfl, get?_eq_none_iff.2 hnone⟩
    | @danglingTarget node choice option hn hc hword hnone =>
        exact danglingTarget_mem_issues.2
          ⟨node, hn, rfl, choice, hc, rfl, hword, get?_eq_none_iff.2 hnone⟩
    | @unreachable node hn hpath =>
        exact unreachable_mem_issues.2 ⟨(not_mem_reached_iff hd hn).2 hpath, node, hn, rfl⟩

/-! ## In which order -/

/-- Nodes with different ids stand in the order of their places. -/
theorem pairwise_placeOf (hd : (g.nodes.map Node.id).Nodup) :
    g.nodes.Pairwise fun m n => g.placeOf m.id < g.placeOf n.id := by
  rw [← List.pairwise_map (f := Node.id) (R := fun a b => g.placeOf a < g.placeOf b),
    List.pairwise_iff_getElem]
  intro i j hi hj hij
  rwa [placeOf, placeOf, hd.idxOf_getElem i hi, hd.idxOf_getElem j hj]

theorem pairwise_danglingOf (node : Node) :
    (g.danglingOf word node).Pairwise (Issue.Before g) := by
  rw [danglingOf, List.pairwise_filterMap]
  have hindices : node.choices.zipIdx.Pairwise fun a b => a.2 < b.2 := by
    rw [← List.pairwise_map (f := Prod.snd) (R := (· < ·)), List.zipIdx_map_snd]
    exact List.pairwise_lt_range'
  refine hindices.imp fun {a b} hlt issue ha other hb => ?_
  cases (Option.ite_none_right_eq_some.1 ha).2
  cases (Option.ite_none_right_eq_some.1 hb).2
  exact danglingTarget_before_iff.2 (.inr ⟨rfl, hlt⟩)

theorem exists_of_mem_danglingOf {node : Node} {issue : Issue}
    (h : issue ∈ g.danglingOf word node) :
    ∃ option target, issue = .danglingTarget node.id option target := by
  obtain ⟨⟨choice, i⟩, _, hi⟩ := List.mem_filterMap.1 h
  cases (Option.ite_none_right_eq_some.1 hi).2
  exact ⟨i, choice.next, rfl⟩

theorem pairwise_issues (hd : (g.nodes.map Node.id).Nodup) :
    (g.issues word).Pairwise (Issue.Before g) := by
  have hplaces := pairwise_placeOf hd
  have hstart : (if g.contains g.start then [] else [Issue.missingStart g.start]).Pairwise
      (Issue.Before g) := by
    split <;> simp
  have hdangling : (g.nodes.flatMap (g.danglingOf word)).Pairwise (Issue.Before g) := by
    refine List.pairwise_flatMap.2 ⟨fun node _ => pairwise_danglingOf node, ?_⟩
    refine hplaces.imp fun {m n} hlt a ha b hb => ?_
    obtain ⟨i, target, rfl⟩ := exists_of_mem_danglingOf ha
    obtain ⟨j, target', rfl⟩ := exists_of_mem_danglingOf hb
    exact danglingTarget_before_iff.2 (.inl hlt)
  have hunreached : ((g.nodes.filter fun n => n.id ∉ g.reached).map fun n =>
      Issue.unreachable n.id).Pairwise (Issue.Before g) := by
    rw [List.pairwise_map]
    exact (hplaces.filter _).imp fun hlt => unreachable_before_iff.2 hlt
  rw [issues]
  refine List.pairwise_append.2 ⟨List.pairwise_append.2 ⟨hstart, hdangling, ?_⟩, hunreached, ?_⟩
  · intro a ha b hb
    obtain ⟨_, ha⟩ := List.mem_ite_nil_left.1 ha
    obtain ⟨node, _, hb⟩ := List.mem_flatMap.1 hb
    obtain ⟨i, target, rfl⟩ := exists_of_mem_danglingOf hb
    cases List.mem_singleton.1 ha
    exact missingStart_before_danglingTarget
  · intro a ha b hb
    obtain ⟨node, _, rfl⟩ := List.mem_map.1 hb
    rcases List.mem_append.1 ha with ha | ha
    · obtain ⟨_, ha⟩ := List.mem_ite_nil_left.1 ha
      cases List.mem_singleton.1 ha
      exact missingStart_before_unreachable
    · obtain ⟨_, _, ha⟩ := List.mem_flatMap.1 ha
      obtain ⟨i, target, rfl⟩ := exists_of_mem_danglingOf ha
      exact danglingTarget_before_unreachable

end Graph

/-! ## The whole list -/

/-- The nodes of a script have different ids. -/
theorem nodup_ids_of_read {source : String} {g : Graph} (h : (read source).value = .ok g) :
    (g.nodes.map Node.id).Nodup := by
  obtain ⟨items, -, hnodes, -, -⟩ := exists_outline_of_read h
  rw [hnodes]
  exact nodup_gather _

/-- A list is that of the issues of a script just when it holds what can be found wrong,
each once and in the order of the issues. -/
theorem issues_eq_iff {source : String} {g : Graph} (h : (read source).value = .ok g)
    (word : String) (found : List Issue) :
    g.issues word = found ↔
      found.Pairwise (Issue.Before g) ∧ ∀ issue, issue ∈ found ↔ g.Finds word issue := by
  have hd := nodup_ids_of_read h
  constructor
  · rintro rfl
    exact ⟨Graph.pairwise_issues hd, fun issue => Graph.mem_issues_iff hd⟩
  · rintro ⟨hbefore, hmem⟩
    refine (Graph.pairwise_issues hd).eq_of_mem_iff hbefore fun issue => ?_
    rw [Graph.mem_issues_iff hd, hmem]

/-- A script in which the cellar and the pit lead to each other and nobody gets to them. -/
def cutOff : String :=
  "state: hall\noption: Wait -> hall\noption: Fly -> sky\noption: Up -> attic\n" ++
    "state: cellar\noption: Dig -> pit\noption: Out -> END\noption: Fly -> sky\n" ++
    "state: attic\noption: Down -> hall\noption: Out -> END\n" ++
    "state: pit\noption: Climb -> cellar\noption: Fly -> sky\noption: Dig -> core\n"

/-- The graph of that script. -/
def cutOffGraph : Graph where
  start := "hall"
  nodes := [
    { id := "hall", choices := [⟨"Wait", "hall"⟩, ⟨"Fly", "sky"⟩, ⟨"Up", "attic"⟩] },
    { id := "cellar", choices := [⟨"Dig", "pit"⟩, ⟨"Out", "END"⟩, ⟨"Fly", "sky"⟩] },
    { id := "attic", choices := [⟨"Down", "hall"⟩, ⟨"Out", "END"⟩] },
    { id := "pit", choices := [⟨"Climb", "cellar"⟩, ⟨"Fly", "sky"⟩, ⟨"Dig", "core"⟩] }]

/-- What is wrong with it. -/
def cutOffIssues : List Issue :=
  [.danglingTarget "hall" 1 "sky", .danglingTarget "cellar" 2 "sky",
    .danglingTarget "pit" 1 "sky", .danglingTarget "pit" 2 "core", .unreachable "cellar",
    .unreachable "pit"]

theorem issues_eq_iff_cutOff :
    (read cutOff).value = .ok cutOffGraph ∧ cutOffGraph.issues "END" = cutOffIssues ∧
      cutOffIssues.Pairwise (Issue.Before cutOffGraph) ∧
      ∀ issue, issue ∈ cutOffIssues ↔ cutOffGraph.Finds "END" issue := by
  have hread : (read cutOff).value = .ok cutOffGraph := by decide +kernel
  have hissues : cutOffGraph.issues "END" = cutOffIssues := by cbv
  exact ⟨hread, hissues, (issues_eq_iff hread "END" cutOffIssues).1 hissues⟩

end Colloquy.Script
