import Colloquy.Dialogue.Step

/-!
# What the actions of a player do

Moving the selection and selecting a choice leave everything but the selection
as it is.  `Confirms` lists what can come of confirming, one constructor for
each way through `confirm`, with the cursor that results and everything that
was tested on the way.  Whatever is said of `confirm` elsewhere is said by
cases on it.

`run_induction` is the induction over the cursors that a player can have: what
holds at the start and is kept by each action holds after any number of them.
-/

namespace Colloquy.Dialogue

open Colloquy.Script

/-! ## Moving and selecting -/

/-- Moving the selection changes the selection only. -/
theorem move_eq (d : Dialogue) (c : Cursor) (delta : Int32) :
    ∃ i, d.move c delta = { c with selected := i } := by
  unfold move
  split
  · exact ⟨c.selected, rfl⟩
  · split
    · exact ⟨c.selected, rfl⟩
    · split
      · exact ⟨c.selected, rfl⟩
      · exact ⟨_, rfl⟩

/-- Selecting a choice changes the selection only. -/
theorem select_eq (d : Dialogue) (c : Cursor) (index : Nat) :
    ∃ i, d.select c index = { c with selected := i } := by
  unfold select
  split
  · exact ⟨index, rfl⟩
  · exact ⟨c.selected, rfl⟩

/-- An index names a choice when it is below the number of choices. -/
theorem hasChoice_iff {d : Dialogue} {c : Cursor} {index : Nat} :
    d.hasChoice c index = true ↔ ∃ node, d.node? c = some node ∧ index < node.choices.length := by
  unfold hasChoice
  cases d.node? c with
  | none => simp
  | some node => simp

/-- A choice that is there can be selected. -/
theorem select_of_lt {d : Dialogue} {c : Cursor} {node : Node} {index : Nat}
    (hn : d.node? c = some node) (hi : index < node.choices.length) :
    d.select c index = { c with selected := index } := by
  have h : d.hasChoice c index = true := hasChoice_iff.2 ⟨node, hn, hi⟩
  rw [select, if_pos h]

/-! ## Confirming -/

/-- A cursor in play selects a choice of the node it is at. -/
structure Picks (d : Dialogue) (c : Cursor) (node : Node) (choice : Choice) : Prop where
  /-- The dialogue has not ended. -/
  playing : c.finished = false
  /-- The cursor is at the node. -/
  atNode : d.node? c = some node
  /-- The choice is the selected one. -/
  selected : node.choices[c.selected]? = some choice

/-- What can come of confirming, and where the cursor is then. -/
inductive Confirms (d : Dialogue) (c : Cursor) : Outcome × Cursor → Prop where
  /-- The dialogue has ended before. -/
  | ended : c.finished = true → Confirms d c (.ignored, c)
  /-- The state names no node. -/
  | lost : c.finished = false → d.node? c = none → Confirms d c (.ignored, c)
  /-- The node has no choices. -/
  | stop {node : Node} : c.finished = false → d.node? c = some node → node.choices = [] →
      Confirms d c (.finished, { c with finished := true })
  /-- The selection names no choice. -/
  | astray {node : Node} : c.finished = false → d.node? c = some node → node.choices ≠ [] →
      node.choices[c.selected]? = none → Confirms d c (.ignored, c)
  /-- The choice is locked. -/
  | locked {node : Node} {choice : Choice} : Picks d c node choice →
      ¬ IsOpen d.rules c.key choice → Confirms d c (.locked, c)
  /-- The choice ends the dialogue. -/
  | leave {node : Node} {choice : Choice} : Picks d c node choice →
      IsOpen d.rules c.key choice → choice.next = d.rules.endWord →
      Confirms d c (.finished, { c with finished := true })
  /-- The choice leads to its target. -/
  | go {node : Node} {choice : Choice} : Picks d c node choice →
      IsOpen d.rules c.key choice → choice.next ≠ d.rules.endWord →
      Confirms d c (.moved, { c with
        state := choice.next, selected := 0, key := c.key || choice.next == d.rules.keyState })

/-- A choice is open unless it is locked and there is no key. -/
theorem isOpen_iff {rules : Gating} {key : Bool} {choice : Choice} :
    IsOpen rules key choice ↔ ¬ (rules.isLocked choice.label = true ∧ key = false) := by
  unfold IsOpen
  cases key <;> simp

/-- Following a choice leads to its target, with the key where that is found. -/
theorem value_follow (d : Dialogue) (c : Cursor) (choice : Choice) :
    (d.follow c choice).value = { c with
      state := choice.next, selected := 0, key := c.key || choice.next == d.rules.keyState } := by
  have hk : (c.key || decide (choice.next = d.rules.keyState ∧ c.key = false)) =
      (c.key || choice.next == d.rules.keyState) := by
    cases c.key with
    | true => rfl
    | false => simp [Bool.beq_eq_decide_eq]
  simp only [follow, Logged.value_bind, Logged.value_pure, hk]

/-- Confirming does one of the things listed. -/
theorem confirms (d : Dialogue) (c : Cursor) : Confirms d c (d.confirm c).value := by
  unfold confirm
  cases hf : c.finished with
  | true => exact .ended hf
  | false =>
      rw [if_neg Bool.false_ne_true]
      cases hn : d.node? c with
      | none => exact .lost hf hn
      | some node =>
          dsimp only
          by_cases he : node.choices = []
          · rw [if_pos he]
            exact .stop hf hn he
          · rw [if_neg he]
            cases hs : node.choices[c.selected]? with
            | none => exact .astray hf hn he hs
            | some choice =>
                have hp : Picks d c node choice := ⟨hf, hn, hs⟩
                dsimp only
                by_cases hl : d.rules.isLocked choice.label = true ∧ c.key = false
                · rw [if_pos hl]
                  exact .locked hp (fun ho => isOpen_iff.1 ho hl)
                · rw [if_neg hl]
                  have ho : IsOpen d.rules c.key choice := isOpen_iff.2 hl
                  by_cases hw : choice.next = d.rules.endWord
                  · rw [if_pos hw]
                    exact .leave hp ho hw
                  · rw [if_neg hw]
                    simp only [Logged.value_bind, Logged.value_pure, value_follow]
                    exact .go hp ho hw

/-- The selected choice is refused where it is not open. -/
theorem Picks.confirm_eq_locked_iff {d : Dialogue} {c : Cursor} {node : Node} {choice : Choice}
    (h : Picks d c node choice) :
    (d.confirm c).value.1 = .locked ↔ ¬ IsOpen d.rules c.key choice := by
  have hsame : ∀ {node' choice'}, Picks d c node' choice' → choice' = choice := by
    intro node' choice' h'
    cases h'.atNode.symm.trans h.atNode
    cases h'.selected.symm.trans h.selected
    rfl
  have hc := d.confirms c
  generalize (d.confirm c).value = r at hc
  cases hc with
  | ended hf => simp [h.playing] at hf
  | lost _ hn => simp [h.atNode] at hn
  | stop _ hn he =>
      cases hn.symm.trans h.atNode
      simpa [he] using h.selected
  | astray _ hn _ hs =>
      cases hn.symm.trans h.atNode
      simp [h.selected] at hs
  | locked hp hclosed =>
      cases hsame hp
      exact iff_of_true rfl hclosed
  | leave hp ho _ =>
      cases hsame hp
      exact iff_of_false nofun fun hn => hn ho
  | go hp ho _ =>
      cases hsame hp
      exact iff_of_false nofun fun hn => hn ho

/-! ## Runs -/

/-- One more action after a run. -/
theorem run_concat (d : Dialogue) (c : Cursor) (actions : List Action) (action : Action) :
    d.run c (actions ++ [action]) = d.act (d.run c actions) action := by
  simp only [run, List.foldl_append, List.foldl_cons, List.foldl_nil]

/-- A run after a run. -/
theorem run_append (d : Dialogue) (c : Cursor) (first second : List Action) :
    d.run c (first ++ second) = d.run (d.run c first) second := List.foldl_append

/-- What holds of a cursor and is kept by each action holds after every run. -/
theorem run_induction {d : Dialogue} {P : Cursor → Prop}
    (hact : ∀ c action, P c → P (d.act c action)) :
    ∀ (actions : List Action) {c : Cursor}, P c → P (d.run c actions)
  | [], _, h => h
  | action :: rest, c, h => run_induction hact rest (hact c action h)

end Colloquy.Dialogue
