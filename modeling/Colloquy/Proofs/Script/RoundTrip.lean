import Colloquy.Proofs.Script.Written
import Colloquy.Script.Reader

/-!
# Reading undoes writing

A graph written as a script is read back as it was (`read_write`).

A reading stands for a graph when it is at the top level and what is open, once
committed, makes that graph (`Reading.StandsFor`).  The lines of a node lead from
a reading that stands for a graph to one that stands for the graph with the node
(`Reading.exists_leads_node`).  That takes in both ways to end a node: by a line
of its own, and by the state line or the end of the script that follows.

Line numbers and notices play no part here, so only the values of the steps are
followed.
-/

namespace Colloquy.Script

open Colloquy.Text

/-! ## Inserting new nodes -/

/-- A node with a new id goes to the end. -/
theorem insertNode_of_not_mem {node : Node} {nodes : List Node}
    (h : node.id ∉ nodes.map Node.id) : insertNode node nodes = nodes ++ [node] := by
  induction nodes with
  | nil => rfl
  | cons m ms ih =>
      rw [List.map_cons, List.mem_cons, not_or] at h
      rw [insertNode, if_neg (fun he => h.1 he.symm), ih h.2]
      rfl

/-- Nodes with new ids, no two of them the same, go to the end in their order. -/
theorem foldl_insert_nodes {nodes : List Node} :
    ∀ {g : Graph}, ((g.nodes ++ nodes).map Node.id).Nodup →
      nodes.foldl Graph.insert g = { g with nodes := g.nodes ++ nodes } := by
  induction nodes with
  | nil =>
      intro g _
      rw [List.append_nil]
      rfl
  | cons node nodes ih =>
      intro g h
      have hnew : node.id ∉ g.nodes.map Node.id := by
        rw [List.map_append, List.map_cons, List.nodup_append] at h
        intro hm
        exact h.2.2 _ hm _ (List.mem_cons_self ..) rfl
      have hinsert : g.insert node = { g with nodes := g.nodes ++ [node] } := by
        rw [Graph.insert, insertNode_of_not_mem hnew]
      rw [List.foldl_cons, hinsert, ih (by rwa [List.append_assoc])]
      simp

/-! ## Steps one after the other -/

theorem value_andThen {ε α β : Type} {x : Logged (Except ε α)} {a : α}
    (f : α → Logged (Except ε β)) (h : x.value = .ok a) : (x.andThen f).value = (f a).value := by
  rw [Logged.andThen, h]

/-- Where two steps succeed, each of them does. -/
theorem exists_of_value_andThen {ε α β : Type} {x : Logged (Except ε α)}
    {f : α → Logged (Except ε β)} {b : β} (h : (x.andThen f).value = .ok b) :
    ∃ a, x.value = .ok a ∧ (f a).value = .ok b := by
  rw [Logged.andThen] at h
  cases hx : x.value with
  | error e =>
      rw [hx] at h
      cases h
  | ok a =>
      rw [hx] at h
      exact ⟨a, rfl, h⟩

theorem andThen_assoc {ε α β γ : Type} (x : Logged (Except ε α)) (f : α → Logged (Except ε β))
    (g : β → Logged (Except ε γ)) :
    (x.andThen f).andThen g = x.andThen fun a => (f a).andThen g := by
  cases hx : x.value with
  | error fault => simp only [Logged.andThen, hx]
  | ok a =>
      cases hf : (f a).value with
      | error fault => simp only [Logged.andThen, hx, hf]
      | ok b => simp only [Logged.andThen, hx, hf, List.append_assoc]

namespace Reading

theorem steps_append (ls ms : List (List Char)) : ∀ (r : Reading) (line : Nat),
    r.steps line (ls ++ ms) =
      (r.steps line ls).andThen fun r' => r'.steps (line + ls.length) ms := by
  induction ls with
  | nil => exact fun r line => rfl
  | cons l ls ih =>
      intro r line
      rw [List.cons_append, steps, steps, andThen_assoc]
      congr 1
      funext r'
      rw [ih, List.length_cons, Nat.add_assoc, Nat.add_comm 1]

/-- Lines behind lines that lead to a reading are read from there. -/
theorem value_steps_append {r r' : Reading} {ls : List (List Char)} {line : Nat}
    (ms : List (List Char)) (h : (r.steps line ls).value = .ok r') :
    (r.steps line (ls ++ ms)).value = (r'.steps (line + ls.length) ms).value := by
  rw [steps_append, value_andThen _ h]

/-- Some lines lead from one reading to another, whatever their numbers are. -/
def Leads (r : Reading) (ls : List (List Char)) (r' : Reading) : Prop :=
  ∀ line, (r.steps line ls).value = .ok r'

theorem Leads.nil (r : Reading) : r.Leads [] r := fun _ => rfl

/-- Some lines and then some more. -/
theorem Leads.append {r r' r'' : Reading} {ls ms : List (List Char)} (h : r.Leads ls r')
    (hs : r'.Leads ms r'') : r.Leads (ls ++ ms) r'' := by
  intro line
  rw [value_steps_append ms (h line)]
  exact hs _

/-- At the top level a line leads where its directive does. -/
theorem Leads.one {r r' : Reading} {l : List Char} {d : Directive} (ht : r.position = .top)
    (hd : Directive.ofLine l = d) (h : ∀ line, (r.obey line d).value = .ok r') :
    r.Leads [l] r' := by
  intro line
  rw [steps, step, ht, hd, value_andThen _ (h line)]
  rfl

/-! ## The lines of a node -/

/-- A reading at the top level, with an open state behind a graph. -/
def opened (g : Graph) (node : Node) : Reading := { graph := g, current := some node }

/-- A reading stands for a graph when what is open, once committed, makes that
graph. -/
structure StandsFor (r : Reading) (g : Graph) : Prop where
  /-- Every line is a directive. -/
  top : r.position = .top
  /-- What is committed is the graph. -/
  commits : r.commit.value = { graph := g }

theorem standsFor_closed (g : Graph) : StandsFor { graph := g } g := ⟨rfl, rfl⟩

theorem standsFor_opened (g : Graph) {node : Node} (h : node.id ≠ "") :
    (opened g node).StandsFor (g.insert node) := by
  refine ⟨rfl, ?_⟩
  rw [commit]
  simp only [opened, if_neg h]
  rfl

/-- A state line commits what is open and opens its state. -/
theorem leads_state {r : Reading} {g : Graph} (h : r.StandsFor g) {id : String} (hid : IsWord id) :
    r.Leads [keyed stateKey id] (opened g { id }) := by
  refine .one h.top (ofLine_state hid) (fun line => ?_)
  simp only [obey, Logged.value_bind, Logged.value_pure, h.commits, String.ofList_toList]
  rfl

/-- The lines of a body are kept, last first, and nothing is said of them. -/
theorem steps_body {ls : List (List Char)} (h : ∀ l ∈ ls, trim l ≠ closeMark) :
    ∀ {r : Reading} {textLine openLine : Nat} {body : List (List Char)} (line : Nat),
      r.position = .inside textLine openLine body →
      r.steps line ls =
        pure (.ok { r with position := .inside textLine openLine (ls.reverse ++ body) }) := by
  induction ls with
  | nil =>
      intro r textLine openLine body line hr
      rw [List.reverse_nil, List.nil_append, ← hr]
      rfl
  | cons l ls ih =>
      intro r textLine openLine body line hr
      have hl : trim l ≠ closeMark := h l (List.mem_cons_self ..)
      have hstep : r.step line l =
          pure (.ok { r with position := .inside textLine openLine (l :: body) }) := by
        rw [step, hr]
        exact if_neg hl
      rw [steps, hstep, List.reverse_cons, List.append_assoc]
      exact ih (fun m hm => h m (List.mem_cons_of_mem _ hm)) (line + 1) rfl

/-- A text block sets the text of the open state. -/
theorem leads_text (g : Graph) (node : Node) {text : String}
    (h : ∀ l ∈ pieces text.toList, trim l ≠ closeMark) :
    (opened g node).Leads ([textKey, openMark] ++ pieces text.toList ++ [closeMark])
      (opened g { node with text }) := by
  intro line
  have hopen : ((opened g node).steps line [textKey, openMark]).value =
      .ok { opened g node with position := .inside line (line + 1) [] } := by
    rw [steps, value_andThen (a := { opened g node with position := .announced line })]
    · rfl
    · rw [step]
      simp only [opened, ofLine_text]
      rfl
  have hbody := congrArg Logged.value (steps_body h
    (r := { opened g node with position := .inside line (line + 1) [] }) (line + 2) rfl)
  rw [List.append_assoc, value_steps_append _ hopen]
  show (Reading.steps _ (line + 2) _).value = _
  rw [value_steps_append _ hbody, steps, value_andThen (a := opened g { node with text })]
  · rfl
  · have hclose : trim closeMark = closeMark := by decide
    rw [step]
    simp only [if_pos hclose, List.append_nil, Logged.value_map, setText, opened,
      Logged.value_pure, List.reverse_reverse, unpieces_pieces, String.ofList_toList]

/-- The lines of choices add them to the open state. -/
theorem leads_choices (g : Graph) (node : Node) {choices : List Choice}
    (h : ∀ c ∈ choices, c.Writable) :
    (opened g node).Leads (choices.map Choice.line)
      (opened g { node with choices := node.choices ++ choices }) := by
  induction choices generalizing node with
  | nil =>
      rw [List.append_nil]
      exact .nil _
  | cons c cs ih =>
      have hone : (opened g node).Leads [c.line]
          (opened g { node with choices := node.choices ++ [c] }) := by
        have hc := h c (List.mem_cons_self ..)
        refine .one rfl (ofLine_choice hc) (fun line => ?_)
        simp only [obey, readChoice_body hc]
        rfl
      have hrest := ih { node with choices := node.choices ++ [c] }
        (fun d hd => h d (List.mem_cons_of_mem _ hd))
      rw [List.append_assoc] at hrest
      exact hone.append hrest

/-- The lines of a node lead from a graph to the graph with the node. -/
theorem exists_leads_node {r : Reading} {g : Graph} (hr : r.StandsFor g) {node : Node}
    (h : node.Writable) (ended : Bool) :
    ∃ r', r.Leads (node.lines ended) r' ∧ r'.StandsFor (g.insert node) := by
  have hne : node.id ≠ "" := h.id.nonempty
  have hopen := leads_state hr h.id
  have htext := leads_text g { id := node.id } h.body
  have hchoices := leads_choices g { id := node.id, text := node.text } h.choices
  have hnode := (hopen.append htext).append hchoices
  simp only [List.nil_append] at hnode
  cases ended with
  | false =>
      refine ⟨opened g node, ?_, standsFor_opened g hne⟩
      simpa [Node.lines] using hnode
  | true =>
      have hend : (opened g node).Leads [endKey] { graph := g.insert node } := by
        refine .one rfl ofLine_end (fun line => ?_)
        simp only [obey, Logged.value_map, (standsFor_opened g hne).commits]
      refine ⟨{ graph := g.insert node }, ?_, standsFor_closed _⟩
      simpa [Node.lines] using hnode.append hend

/-- The lines of nodes lead from a graph to the graph with the nodes. -/
theorem exists_leads_nodes {nodes : List Node} (ended : Bool) :
    ∀ {r : Reading} {g : Graph}, r.StandsFor g → (∀ n ∈ nodes, n.Writable) →
      ∃ r', r.Leads (nodes.flatMap (Node.lines ended)) r' ∧
        r'.StandsFor (nodes.foldl Graph.insert g) := by
  induction nodes with
  | nil =>
      intro r g hr _
      exact ⟨r, .nil r, hr⟩
  | cons node nodes ih =>
      intro r g hr h
      obtain ⟨r₁, hnode, hr₁⟩ := exists_leads_node hr (h node (List.mem_cons_self ..)) ended
      obtain ⟨r₂, hnodes, hr₂⟩ := ih hr₁ (fun n hn => h n (List.mem_cons_of_mem _ hn))
      exact ⟨r₂, hnode.append hnodes, hr₂⟩

/-- The end of the script makes a graph of the reading that stands for it. -/
theorem value_finish {r : Reading} {g : Graph} (h : r.StandsFor g) (hs : g.start ≠ "") :
    r.finish.value = .ok g := by
  have hclose : r.closeBlock.value = .ok r := by
    rw [closeBlock, h.top]
    rfl
  rw [finish, value_andThen _ hclose, Logged.value_bind, Logged.value_pure, h.commits,
    Graph.started, if_neg hs]

end Reading

/-! ## The round trip -/

/-- No line of a body ends in a carriage return, which would be taken for part
of the line ending. -/
def Graph.NoReturns (g : Graph) : Prop :=
  ∀ n ∈ g.nodes, ∀ l ∈ pieces n.text.toList, l.getLast? ≠ some '\r'

instance (g : Graph) : Decidable g.NoReturns :=
  inferInstanceAs (Decidable (∀ n ∈ g.nodes, ∀ l ∈ pieces n.text.toList, l.getLast? ≠ some '\r'))

/-- The lines of a node can be read back. -/
theorem lasts_node {node : Node} (h : node.Writable)
    (hr : ∀ l ∈ pieces node.text.toList, l.getLast? ≠ some '\r') (ended : Bool) :
    ∀ l ∈ node.lines ended, Lasts l := by
  intro l hl
  simp only [Node.lines, List.mem_append, List.mem_cons, List.not_mem_nil, or_false,
    List.mem_map] at hl
  rcases hl with (((((rfl | rfl | rfl) | hl) | rfl) | ⟨c, hc, rfl⟩) | hl)
  · exact lasts_keyed (by decide) h.id
  · exact ⟨by decide, by decide⟩
  · exact ⟨by decide, by decide⟩
  · exact ⟨newline_not_mem_of_mem_pieces hl, hr l hl⟩
  · exact ⟨by decide, by decide⟩
  · exact lasts_choice (h.choices c hc)
  · cases ended with
    | false => cases hl
    | true =>
        cases List.mem_singleton.1 hl
        exact ⟨by decide, by decide⟩

/-- The lines of a graph can be read back. -/
theorem lasts_lines {g : Graph} (h : g.Writable) (hr : g.NoReturns) (ended : Bool) :
    ∀ l ∈ g.lines ended, Lasts l := by
  intro l hl
  rcases List.mem_cons.1 hl with rfl | hl
  · exact lasts_keyed (by decide) h.start
  · obtain ⟨node, hn, hl⟩ := List.mem_flatMap.1 hl
    exact lasts_node (h.nodes node hn) (hr node hn) ended l hl

/-- The lines of a graph are read as the graph. -/
theorem value_readLines_lines {g : Graph} (h : g.Writable) (ended : Bool) :
    (readLines (g.lines ended)).value = .ok g := by
  have hstart : Reading.Leads {} [keyed startKey g.start] { graph := { start := g.start } } := by
    refine .one rfl (ofLine_start h.start) (fun line => ?_)
    simp only [Reading.obey, Logged.value_pure, String.ofList_toList]
  obtain ⟨r, hnodes, hr⟩ := Reading.exists_leads_nodes ended
    (Reading.standsFor_closed { start := g.start }) h.nodes
  have hgraph : g.nodes.foldl Graph.insert { start := g.start } = g := foldl_insert_nodes h.distinct
  rw [hgraph] at hr
  have hsteps : (Reading.steps {} 1 (g.lines ended)).value = .ok r := hstart.append hnodes 1
  rw [readLines, value_andThen _ hsteps]
  exact Reading.value_finish hr h.start.nonempty

/-- A graph is read back as it was written, whether its states end with a line
of their own or not. -/
theorem read_write {g : Graph} (h : g.Writable) (hr : g.NoReturns) (ended : Bool) :
    (read (g.write ended)).value = .ok g := by
  have hlines : lines (g.write ended).toList = g.lines ended := by
    rw [Graph.write, String.toList_ofList]
    exact lines_written (lasts_lines h hr ended)
  rw [read, hlines]
  exact value_readLines_lines h ended

/-- A graph whose body looks like a script, with a label that ends like an arrow
begins, a target with an arrow, an empty body, and a start that names no node. -/
def lookalike : Graph where
  start := "nowhere"
  nodes := [
    { id := "a", text := "# a\n  text:\nendstate\n\noption: b\n", choices := [⟨"go -", "b -> c"⟩] },
    { id := "start:" }]

theorem read_write_lookalike :
    lookalike.Writable ∧ lookalike.NoReturns ∧
      (read (lookalike.write false)).value = .ok lookalike ∧
      (read (lookalike.write true)).value = .ok lookalike := by
  have h : lookalike.Writable := by decide
  have hr : lookalike.NoReturns := by decide
  exact ⟨h, hr, read_write h hr false, read_write h hr true⟩

end Colloquy.Script
