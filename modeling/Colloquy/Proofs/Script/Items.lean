import Colloquy.Proofs.Script.RoundTrip

/-!
# Scripts as items

A script is a row of items.  A directive is an item of one line.  A text block is
an item of several, from the line that announces it to the line that closes it.
The last block of a script may lack the closing line.

`Outline` says which items lines stand for, each with the number of its first
line.  It does not say how they are found.  Lines have an outline just when the
reader finds no fault in them (`exists_outline_iff`).  Then the reader holds at
the end what the items leave, one after the other, and has warned of the items
it passed over (`Outline.gives`).

What is said of other things than items passed over plays no part here.
-/

namespace Colloquy

/-- Whether a notice is about an item outside every state. -/
def Notice.isOutside : Notice → Bool
  | .textOutsideState _ | .choiceOutsideState _ => true
  | _ => false

namespace Script

open Colloquy.Text

/-! ## Items -/

/-- What lines of a script stand for. -/
inductive Item where
  /-- Nothing: an empty line, a comment, or a line that is no directive. -/
  | nothing
  /-- The id of the start state. -/
  | start (id : String)
  /-- A new state with its id. -/
  | state (id : String)
  /-- A text block with its body. -/
  | text (body : String)
  /-- A choice. -/
  | choice (choice : Choice)
  /-- The end of a state. -/
  | endState
deriving Repr, DecidableEq, Inhabited

/-- The warning that an item is outside every state, for one that cannot be
there. -/
def Item.warning? (line : Nat) : Item → Option Notice
  | .text _ => some (.textOutsideState line)
  | .choice _ => some (.choiceOutsideState line)
  | _ => none

/-- The lines a text block starts with, up to its closing line. -/
inductive OpensText : List (List Char) → String → Prop where
  /-- The line that announces the block, the line that opens it, and a body. -/
  | mk {announce opening : List Char} {body : List (List Char)} :
      Directive.ofLine announce = .text → trim opening = openMark →
      (∀ l ∈ body, trim l ≠ closeMark) →
      OpensText (announce :: opening :: body) (String.ofList (unpieces body))

/-- The lines of an item. -/
inductive Stands : List (List Char) → Item → Prop where
  /-- An empty line or a comment. -/
  | nothing {l : List Char} : Directive.ofLine l = .nothing → Stands [l] .nothing
  /-- A line that is no directive. -/
  | unknown {l : List Char} : Directive.ofLine l = .unknown → Stands [l] .nothing
  /-- A start line. -/
  | start {l id : List Char} : Directive.ofLine l = .start id →
      Stands [l] (.start (String.ofList id))
  /-- A state line. -/
  | state {l id : List Char} : Directive.ofLine l = .state id →
      Stands [l] (.state (String.ofList id))
  /-- A choice, with a label before its first arrow and a target behind it. -/
  | choice {l body label next : List Char} : Directive.ofLine l = .choice body →
      splitArrow body = some (label, next) → trim label ≠ [] → trim next ≠ [] →
      Stands [l] (.choice ⟨String.ofList (trim label), String.ofList (trim next)⟩)
  /-- A text block. -/
  | text {ls : List (List Char)} {body : String} {closing : List Char} : OpensText ls body →
      trim closing = closeMark → Stands (ls ++ [closing]) (.text body)
  /-- The end of a state. -/
  | endState {l : List Char} : Directive.ofLine l = .endState → Stands [l] .endState

/-- The items that lines stand for, the first line having a given number. -/
inductive Outline : Nat → List (List Char) → List (Nat × Item) → Prop where
  /-- No lines. -/
  | nil (line : Nat) : Outline line [] []
  /-- An item and what follows it. -/
  | cons {line : Nat} {ls rest : List (List Char)} {item : Item} {items : List (Nat × Item)} :
      Stands ls item → Outline (line + ls.length) rest items →
      Outline line (ls ++ rest) ((line, item) :: items)
  /-- A text block that takes the rest of the script. -/
  | unclosed {line : Nat} {ls : List (List Char)} {body : String} : OpensText ls body →
      Outline line ls [(line, .text body)]

/-! ## What items leave -/

/-- Nodes with one more, if it has an id. -/
def put (nodes : List Node) (node : Node) : List Node :=
  if node.id = "" then nodes else insertNode node nodes

namespace Reading

/-- A reading at the top level after an item. -/
def after (r : Reading) : Item → Reading
  | .nothing => r
  | .start id => { r with graph := { r.graph with start := id } }
  | .state id => { r.commit.value with current := some { id } }
  | .text body => { r with current := r.current.map fun node => { node with text := body } }
  | .choice choice =>
      { r with current := r.current.map fun node =>
          { node with choices := node.choices ++ [choice] } }
  | .endState => r.commit.value

/-- A reading at the top level after items. -/
def afterAll (r : Reading) (items : List (Nat × Item)) : Reading :=
  items.foldl (fun r item => r.after item.2) r

theorem afterAll_cons (r : Reading) (item : Nat × Item) (items : List (Nat × Item)) :
    r.afterAll (item :: items) = (r.after item.2).afterAll items := rfl

/-- The warnings of an item. -/
def warning (r : Reading) (item : Nat × Item) : List Notice :=
  if r.current = none then (item.2.warning? item.1).toList else []

/-- The warnings of items. -/
def warnings (r : Reading) : List (Nat × Item) → List Notice
  | [] => []
  | item :: items => r.warning item ++ (r.after item.2).warnings items

/-- What is open is put into the graph. -/
theorem value_commit (r : Reading) : r.commit.value =
    { r with
      graph := { r.graph with nodes := r.current.toList.foldl put r.graph.nodes }
      current := none } := by
  obtain ⟨graph, current, position⟩ := r
  cases current with
  | none => rfl
  | some node =>
      by_cases h : node.id = ""
      · simp [commit, put, h]
      · simp [commit, put, h, Graph.insert]

theorem outside_commit (r : Reading) : r.commit.notices.filter Notice.isOutside = [] := by
  rw [commit]
  split
  · rfl
  · split
    · rfl
    · rfl

theorem position_after (r : Reading) (item : Item) : (r.after item).position = r.position := by
  cases item with
  | nothing => rfl
  | start id => rfl
  | state id => rw [after, value_commit]
  | text body => rfl
  | choice choice => rfl
  | endState => rw [after, value_commit]

end Reading

/-! ## Steps that give something -/

/-- A step succeeds with a value, and these are its warnings of items outside
every state. -/
structure Gives {α : Type} (x : Logged (Except Fault α)) (a : α) (warned : List Notice) : Prop where
  /-- The value. -/
  value : x.value = .ok a
  /-- The warnings. -/
  warned : x.notices.filter Notice.isOutside = warned

theorem gives_pure {α : Type} (a : α) : Gives (pure (.ok a)) a [] := ⟨rfl, rfl⟩

theorem Gives.andThen {α β : Type} {x : Logged (Except Fault α)} {f : α → Logged (Except Fault β)}
    {a : α} {b : β} {s t : List Notice} (hx : Gives x a s) (hf : Gives (f a) b t) :
    Gives (x.andThen f) b (s ++ t) := by
  refine ⟨(value_andThen f hx.value).trans hf.value, ?_⟩
  rw [Logged.andThen, hx.value]
  rw [List.filter_append, hx.warned, hf.warned]

namespace Reading

/-- Lines read from a reading to the end of the script, with the block closed that
is open there. -/
def toEnd (r : Reading) (line : Nat) (ls : List (List Char)) : Logged (Except Fault Reading) :=
  (r.steps line ls).andThen closeBlock

theorem toEnd_append (r : Reading) (line : Nat) (ls ms : List (List Char)) :
    r.toEnd line (ls ++ ms) =
      (r.steps line ls).andThen fun r' => r'.toEnd (line + ls.length) ms := by
  rw [toEnd, steps_append, andThen_assoc]
  rfl

theorem gives_nil (r : Reading) (line : Nat) : Gives (r.steps line []) r [] := gives_pure r

theorem gives_cons {r r' r'' : Reading} {line : Nat} {l : List Char} {ls : List (List Char)}
    {s t : List Notice} (h : Gives (r.step line l) r' s)
    (hs : Gives (r'.steps (line + 1) ls) r'' t) : Gives (r.steps line (l :: ls)) r'' (s ++ t) := by
  rw [steps]
  exact h.andThen hs

theorem gives_append {r r' r'' : Reading} {line : Nat} {ls ms : List (List Char)}
    {s t : List Notice} (h : Gives (r.steps line ls) r' s)
    (hs : Gives (r'.steps (line + ls.length) ms) r'' t) :
    Gives (r.steps line (ls ++ ms)) r'' (s ++ t) := by
  rw [steps_append]
  exact h.andThen hs

/-! ## From lines to items -/

theorem gives_body {ls : List (List Char)} (h : ∀ l ∈ ls, trim l ≠ closeMark) {r : Reading}
    {textLine openLine : Nat} {body : List (List Char)} (line : Nat)
    (hr : r.position = .inside textLine openLine body) :
    Gives (r.steps line ls)
      { r with position := .inside textLine openLine (ls.reverse ++ body) } [] := by
  rw [steps_body h line hr]
  exact gives_pure _

/-- The lines that open a text block lead into it. -/
theorem exists_gives_of_opensText {r : Reading} {ls : List (List Char)} {body : String}
    (h : OpensText ls body) (ht : r.position = .top) (line : Nat) :
    ∃ back, String.ofList (unpieces back.reverse) = body ∧
      Gives (r.steps line ls) { r with position := .inside line (line + 1) back } [] := by
  cases h with
  | @mk announce opening ls ha ho hbody =>
      have hannounce : Gives (r.step line announce) { r with position := .announced line } [] := by
        rw [step, ht, ha]
        exact gives_pure _
      have hopening : Gives (step { r with position := .announced line } (line + 1) opening)
          { r with position := .inside line (line + 1) [] } [] := by
        rw [step]
        simp only [if_pos ho]
        exact gives_pure _
      have hrest := gives_body hbody (r := { r with position := .inside line (line + 1) [] })
        (line + 1 + 1) rfl
      rw [List.append_nil] at hrest
      exact ⟨ls.reverse, by rw [List.reverse_reverse],
        gives_cons hannounce (gives_cons hopening hrest)⟩

/-- The end of a text block sets the text of the open state. -/
theorem gives_setText {r : Reading} (ht : r.position = .top) (p : Position) (textLine : Nat)
    (back : List (List Char)) :
    Gives (.ok <$> setText { r with position := p } textLine back)
      (r.after (.text (String.ofList (unpieces back.reverse))))
      (r.warning (textLine, .text (String.ofList (unpieces back.reverse)))) := by
  obtain ⟨graph, current, position⟩ := r
  cases ht
  cases current with
  | none => exact ⟨rfl, rfl⟩
  | some node => exact ⟨rfl, rfl⟩

theorem gives_line {r r' : Reading} {l : List Char} {d : Directive} {line : Nat}
    {warned : List Notice} (ht : r.position = .top) (hl : Directive.ofLine l = d)
    (h : Gives (r.obey line d) r' warned) : Gives (r.steps line [l]) r' warned := by
  have hstep : Gives (r.step line l) r' warned := by
    rw [step, ht, hl]
    exact h
  have hlines := gives_cons hstep (gives_nil r' (line + 1))
  rwa [List.append_nil] at hlines

/-- The lines of an item leave what the item does. -/
theorem gives_item {r : Reading} {ls : List (List Char)} {item : Item} (h : Stands ls item)
    (ht : r.position = .top) (line : Nat) :
    Gives (r.steps line ls) (r.after item) (r.warning (line, item)) := by
  have hsilent : ∀ {item : Item}, item.warning? line = none → r.warning (line, item) = [] := by
    intro item h
    rw [warning, h]
    exact ite_self _
  cases h with
  | nothing hl =>
      rw [hsilent rfl]
      exact gives_line ht hl (gives_pure r)
  | unknown hl =>
      rw [hsilent rfl]
      exact gives_line ht hl ⟨rfl, rfl⟩
  | start hl =>
      rw [hsilent rfl]
      exact gives_line ht hl (gives_pure _)
  | state hl =>
      rw [hsilent rfl]
      refine gives_line ht hl ⟨rfl, ?_⟩
      rw [obey, Logged.notices_bind, Logged.notices_pure, List.append_nil]
      exact r.outside_commit
  | @choice l body label next hl hs hlabel hnext =>
      have hread : readChoice body line =
          .ok ⟨String.ofList (trim label), String.ofList (trim next)⟩ := by
        rw [readChoice, hs]
        exact if_neg (not_or.2 ⟨hlabel, hnext⟩)
      refine gives_line ht hl ?_
      rw [obey, hread]
      obtain ⟨graph, current, position⟩ := r
      cases current with
      | none => exact ⟨rfl, rfl⟩
      | some node => exact ⟨rfl, rfl⟩
  | @text ls body closing ho hc =>
      obtain ⟨back, rfl, hopen⟩ := exists_gives_of_opensText ho ht line
      have hstep : step { r with position := .inside line (line + 1) back } (line + ls.length)
          closing = .ok <$> setText { r with position := .inside line (line + 1) back } line back :=
        if_pos hc
      have hclose := gives_setText ht (.inside line (line + 1) back) line back
      rw [← hstep] at hclose
      have hlines := gives_append hopen (gives_cons hclose (gives_nil _ _))
      rwa [List.nil_append, List.append_nil] at hlines
  | endState hl =>
      rw [hsilent rfl]
      refine gives_line ht hl ⟨rfl, ?_⟩
      rw [obey, Logged.notices_map]
      exact r.outside_commit

end Reading

open Reading in
theorem Outline.gives {line : Nat} {ls : List (List Char)} {items : List (Nat × Item)}
    (h : Outline line ls items) : ∀ {r : Reading}, r.position = .top →
      Gives (r.toEnd line ls) (r.afterAll items) (r.warnings items) := by
  induction h with
  | nil line =>
      intro r ht
      refine Gives.andThen (s := []) (gives_nil r line) ?_
      rw [closeBlock, ht]
      exact gives_pure r
  | cons hs _ ih =>
      intro r ht
      rw [toEnd_append]
      exact (gives_item hs ht _).andThen (ih ((r.position_after _).trans ht))
  | @unclosed line ls body ho =>
      intro r ht
      obtain ⟨back, rfl, hopen⟩ := exists_gives_of_opensText ho ht line
      have hset := gives_setText ht (.inside line (line + 1) back) line back
      exact hopen.andThen ⟨hset.value, hset.warned.trans (List.append_nil _).symm⟩

/-! ## From the reader to items -/

theorem exists_closing_or (ls : List (List Char)) :
    (∀ l ∈ ls, trim l ≠ closeMark) ∨ ∃ body closing rest, ls = body ++ closing :: rest ∧
      (∀ l ∈ body, trim l ≠ closeMark) ∧ trim closing = closeMark := by
  cases h : ls.find? fun l => trim l = closeMark with
  | none => exact .inl (by simpa using h)
  | some closing =>
      obtain ⟨hc, body, rest, rfl, hbody⟩ := List.find?_eq_some_iff_append.1 h
      exact .inr ⟨body, closing, rest, rfl, by simpa using hbody, by simpa using hc⟩

namespace Reading

theorem toEnd_cons (r : Reading) (line : Nat) (l : List Char) (ls : List (List Char)) :
    r.toEnd line (l :: ls) = (r.step line l).andThen fun r' => r'.toEnd (line + 1) ls := by
  rw [toEnd, steps, andThen_assoc]
  rfl

/-- A line without a fault is an item, unless it announces a text block. -/
theorem exists_stands {r r' : Reading} {line : Nat} {l : List Char} (ht : r.position = .top)
    (hl : Directive.ofLine l ≠ .text) (h : (r.step line l).value = .ok r') :
    ∃ item, Stands [l] item := by
  rw [step, ht] at h
  cases hd : Directive.ofLine l with
  | nothing => exact ⟨_, .nothing hd⟩
  | start id => exact ⟨_, .start hd⟩
  | state id => exact ⟨_, .state hd⟩
  | text => exact absurd hd hl
  | endState => exact ⟨_, .endState hd⟩
  | unknown => exact ⟨_, .unknown hd⟩
  | choice body =>
      rw [hd] at h
      simp only [obey, readChoice] at h
      cases hs : splitArrow body with
      | none =>
          rw [hs] at h
          cases h
      | some parts =>
          obtain ⟨label, next⟩ := parts
          by_cases he : trim label = [] ∨ trim next = []
          · rw [hs] at h
            simp only [if_pos he] at h
            cases h
          · exact ⟨_, .choice hd hs (not_or.1 he).1 (not_or.1 he).2⟩

/-- A line that announces a text block is followed by one that opens it. -/
theorem exists_opening {r r' : Reading} {line : Nat} {l : List Char} {ls : List (List Char)}
    (ht : r.position = .top) (hl : Directive.ofLine l = .text)
    (h : (r.toEnd line (l :: ls)).value = .ok r') :
    ∃ opening rest, ls = opening :: rest ∧ trim opening = openMark := by
  have hstep : r.step line l = pure (.ok { r with position := .announced line }) := by
    rw [step, ht, hl]
    rfl
  rw [toEnd_cons, hstep] at h
  cases ls with
  | nil => cases h
  | cons opening rest =>
      refine ⟨opening, rest, rfl, ?_⟩
      by_contra ho
      have hfault : step { r with position := .announced line } (line + 1) opening =
          pure (.error (.missingOpen (line + 1))) := if_neg ho
      have h' : (toEnd { r with position := .announced line } (line + 1)
        (opening :: rest)).value = .ok r' := h
      rw [toEnd_cons, hfault] at h'
      cases h'

/-- What is read after an item without a fault has none itself. -/
theorem value_toEnd_after {r r' : Reading} {line : Nat} {ls rest : List (List Char)} {item : Item}
    (hs : Stands ls item) (ht : r.position = .top)
    (h : (r.toEnd line (ls ++ rest)).value = .ok r') :
    ((r.after item).toEnd (line + ls.length) rest).value = .ok r' := by
  rwa [toEnd_append, value_andThen _ (gives_item hs ht line).value] at h

theorem exists_outline (ls : List (List Char)) {r r' : Reading} {line : Nat}
    (ht : r.position = .top) (h : (r.toEnd line ls).value = .ok r') :
    ∃ items, Outline line ls items := by
  match ls with
  | [] => exact ⟨[], .nil line⟩
  | l :: ls =>
    have hrest : ∀ front rest {item}, l :: ls = front ++ rest → Stands front item →
        rest.length ≤ ls.length → ∃ items, Outline line (l :: ls) items := by
      intro front rest item he hs hlt
      rw [he] at h ⊢
      obtain ⟨items, ho⟩ := exists_outline rest ((r.position_after item).trans ht)
        (value_toEnd_after hs ht h)
      exact ⟨_, .cons hs ho⟩
    by_cases hl : Directive.ofLine l = .text
    · obtain ⟨opening, more, rfl, ho⟩ := exists_opening ht hl h
      rcases exists_closing_or more with hbody | ⟨body, closing, rest, rfl, hbody, hc⟩
      · exact ⟨_, .unclosed (.mk hl ho hbody)⟩
      · refine hrest _ rest ?_ (.text (.mk hl ho hbody) hc) ?_
        · simp
        · simp only [List.length_cons, List.length_append]
          omega
    · rw [toEnd_cons] at h
      obtain ⟨r₁, hstep, -⟩ := exists_of_value_andThen h
      obtain ⟨item, hs⟩ := exists_stands ht hl hstep
      exact hrest [l] ls rfl hs le_rfl
termination_by ls.length

end Reading

/-! ## Faults of lines -/

/-- A fault of a step, if it has one, is that of a line. -/
def Placed {α : Type} (x : Logged (Except Fault α)) : Prop := x.value ≠ .error .noStates

theorem placed_of_ok {α : Type} {x : Logged (Except Fault α)} {a : α} (h : x.value = .ok a) :
    Placed x := by
  rw [Placed, h]
  exact fun he => by cases he

theorem placed_of_error {α : Type} {x : Logged (Except Fault α)} {fault : Fault} {line : Nat}
    (h : x.value = .error fault) (hf : fault.line? = some line) : Placed x := by
  rw [Placed, h]
  intro he
  rw [Except.error.inj he] at hf
  cases hf

theorem Placed.andThen {α β : Type} {x : Logged (Except Fault α)}
    {f : α → Logged (Except Fault β)} (hx : Placed x) (hf : ∀ a, Placed (f a)) :
    Placed (x.andThen f) := by
  cases h : x.value with
  | error fault =>
      rw [Placed, Logged.andThen, h]
      intro he
      rw [Except.error.inj he] at h
      exact hx h
  | ok a =>
      rw [Placed, value_andThen f h]
      exact hf a

namespace Reading

theorem placed_obey (r : Reading) (line : Nat) (d : Directive) : Placed (r.obey line d) := by
  cases d with
  | nothing => exact placed_of_ok rfl
  | start id => exact placed_of_ok rfl
  | state id => exact placed_of_ok rfl
  | text => exact placed_of_ok rfl
  | endState => exact placed_of_ok rfl
  | unknown => exact placed_of_ok rfl
  | choice body =>
      rw [obey, readChoice]
      cases splitArrow body with
      | none => exact placed_of_error rfl rfl
      | some parts =>
          by_cases he : trim parts.1 = [] ∨ trim parts.2 = []
          · simp only [if_pos he]
            exact placed_of_error rfl rfl
          · simp only [if_neg he]
            exact placed_of_ok rfl

theorem placed_step (r : Reading) (line : Nat) (l : List Char) : Placed (r.step line l) := by
  rw [step]
  cases r.position with
  | top => exact r.placed_obey line _
  | announced textLine =>
      by_cases ho : trim l = openMark
      · simp only [if_pos ho]
        exact placed_of_ok rfl
      · simp only [if_neg ho]
        exact placed_of_error rfl rfl
  | inside textLine openLine body =>
      by_cases hc : trim l = closeMark
      · simp only [if_pos hc]
        exact placed_of_ok rfl
      · simp only [if_neg hc]
        exact placed_of_ok rfl

theorem placed_steps (r : Reading) (line : Nat) (ls : List (List Char)) :
    Placed (r.steps line ls) := by
  induction ls generalizing r line with
  | nil => exact placed_of_ok rfl
  | cons l ls ih =>
      rw [steps]
      exact (r.placed_step line l).andThen fun r' => ih r' (line + 1)

theorem placed_closeBlock (r : Reading) : Placed r.closeBlock := by
  rw [closeBlock]
  cases r.position with
  | top => exact placed_of_ok rfl
  | announced textLine => exact placed_of_error rfl rfl
  | inside textLine openLine body => exact placed_of_ok rfl

theorem placed_toEnd (r : Reading) (line : Nat) (ls : List (List Char)) :
    Placed (r.toEnd line ls) :=
  (r.placed_steps line ls).andThen placed_closeBlock

end Reading

/-! ## The end of a script -/

/-- The graph of a reading in which no text block is open. -/
def Reading.conclude (r : Reading) : Logged (Except Fault Graph) := do
  let r ← r.commit
  pure r.graph.started

theorem readLines_eq (ls : List (List Char)) :
    readLines ls = (Reading.toEnd {} 1 ls).andThen Reading.conclude := by
  rw [Reading.toEnd, andThen_assoc]
  rfl

/-- The graph of lines is that of what their items leave. -/
theorem Outline.value_readLines {ls : List (List Char)} {items : List (Nat × Item)}
    (h : Outline 1 ls items) :
    (readLines ls).value = (Reading.afterAll {} items).commit.value.graph.started := by
  rw [readLines_eq, value_andThen _ (h.gives rfl).value]
  rfl

theorem Outline.warned_readLines {ls : List (List Char)} {items : List (Nat × Item)}
    (h : Outline 1 ls items) :
    (readLines ls).notices.filter Notice.isOutside = Reading.warnings {} items := by
  obtain ⟨hvalue, hwarned⟩ := h.gives (r := {}) rfl
  have hend : ∀ r : Reading, r.conclude.notices.filter Notice.isOutside = [] := by
    intro r
    rw [Reading.conclude, Logged.notices_bind, Logged.notices_pure, List.append_nil]
    exact r.outside_commit
  rw [readLines_eq, Logged.andThen, hvalue]
  simp only [List.filter_append, hwarned, hend, List.append_nil]

theorem started_eq_error {g : Graph} {fault : Fault} (h : g.started = .error fault) :
    fault = .noStates := by
  rw [Graph.started] at h
  split at h
  · split at h
    · cases h
      rfl
    · cases h
  · cases h

/-- Lines have an outline just when none of them is at fault. -/
theorem exists_outline_iff (ls : List (List Char)) :
    (∃ items, Outline 1 ls items) ↔
      ∀ fault, (readLines ls).value = .error fault → fault = .noStates := by
  constructor
  · rintro ⟨items, h⟩ fault hfault
    rw [h.value_readLines] at hfault
    exact started_eq_error hfault
  · intro h
    cases hend : (Reading.toEnd {} 1 ls).value with
    | ok r => exact Reading.exists_outline ls rfl hend
    | error fault =>
        have hfault : (readLines ls).value = .error fault := by
          rw [readLines_eq, Logged.andThen, hend]
        rw [h fault hfault] at hend
        exact absurd hend (Reading.placed_toEnd {} 1 ls)

end Script

end Colloquy
