import Colloquy.Proofs.Play.Keys

/-!
# The marked row

One row of a layout is drawn in the colour of the selected choice.  That is so wherever
the actions of a player lead, since the selection always names a choice and each choice
has a row of its own (`marks_one_row`).
-/

namespace Colloquy.Play

open Colloquy.Script Colloquy.Typeset

/-- A choice has one row in the layout of its node. -/
theorem Layout.countP_index {α : Type} [Zero α] [Add α] [Sub α] [Mul α] [Div α] [NatCast α] [LE α]
    [DecidableLE α] {node : Node} (shaper : Shaper α) (metrics : Metrics α) (viewport : Nat)
    (rules : Dialogue.Gating) (key : Bool) {index : Nat} (h : index < node.choices.length) :
    (ofNode node shaper metrics viewport rules key).rows.countP (fun row => row.index == index) =
      1 := by
  have hcount : ∀ rows : List (Row α),
      rows.countP (fun row => row.index == index) = (rows.map Row.index).count index := by
    intro rows
    rw [List.count_eq_countP, List.countP_map]
    rfl
  rw [hcount, ofNode, map_index_rowsFrom, List.length_map, List.count_range_1', if_pos]
  exact ⟨index.zero_le, by rwa [Nat.zero_add]⟩

/-- Wherever a player comes, the selection names a choice if there is one.  Confirming is
ignored only after the end or where there is no node.  One row is marked as selected. -/
theorem marks_one_row (d : Dialogue) (actions : List Dialogue.Action) :
    let c := d.run d.begin actions
    (∀ node, d.node? c = some node → node.choices ≠ [] → c.selected < node.choices.length) ∧
    ((∀ node, d.node? c = some node → node.choices = []) → c.selected = 0) ∧
    ((d.confirm c).value.1 = .ignored ↔ c.finished = true ∨ d.node? c = none) ∧
    (∀ node, d.node? c = some node → node.choices ≠ [] → node.choices[c.selected]? ≠ none) ∧
    ∀ {S α : Type} [Surface S α] [Zero α] [Add α] [Sub α] [Mul α] [Div α] [NatCast α] [LE α]
      [DecidableLE α] (m : Mode S α) (viewport : Nat) (node : Node),
      m.dialogue = d → m.cursor = c → d.node? c = some node → node.choices ≠ [] →
      ∃ layout, m.layout? viewport = some layout ∧
        layout.rows.countP (fun row => row.index == c.selected) = 1 := by
  intro c
  have hrange : d.InRange c := d.inRange_run actions
  refine ⟨fun node hn hne => hrange.lt_length hn hne, fun hnone => ?_,
    hrange.confirm_eq_ignored_iff, fun node hn hne hs => ?_, ?_⟩
  · rcases hrange with hlt | ⟨-, hzero⟩
    · cases hn : d.node? c with
      | none =>
          rw [Dialogue.choiceCount, hn] at hlt
          cases hlt
      | some node =>
          rw [Dialogue.choiceCount_of_node hn, hnone node hn] at hlt
          cases hlt
    · exact hzero
  · exact absurd (hrange.lt_length hn hne) (List.getElem?_eq_none_iff.1 hs).not_gt
  · intro S α _ _ _ _ _ _ _ _ _ m viewport node hd hc hn hne
    subst hd
    refine ⟨_, ?_, Layout.countP_index (Surface.shaper m.surface) m.settings.metrics viewport
      m.settings.gating m.cursor.key (hrange.lt_length hn hne)⟩
    rw [Mode.layout?, hc, hn]
    rfl

/-- The farthest move up, three more and a choice that is not there lead to the way up. -/
theorem marks_one_row_hall :
    let c := Mode.hall.dialogue.run Mode.hall.dialogue.begin
      [.move Int32.minValue, .move (-3), .select 7]
    c.selected = 1 ∧ ∃ layout, Mode.layout? { Mode.hall with cursor := c } 6 = some layout ∧
      layout.rows.countP (fun row => row.index == c.selected) = 1 := by
  intro c
  have hc : c = { state := "hall", selected := 1 } := by decide
  have hnode : Mode.hall.dialogue.node? c = some Mode.hallNode := by
    rw [hc]
    decide
  obtain ⟨-, -, -, -, hrow⟩ := marks_one_row Mode.hall.dialogue
    [.move Int32.minValue, .move (-3), .select 7]
  refine ⟨by rw [hc], hrow { Mode.hall with cursor := c } 6 Mode.hallNode rfl rfl hnode ?_⟩
  exact List.cons_ne_nil _ _

end Colloquy.Play
