import Colloquy.Play.Layout

/-!
# Rows of labels

Whatever the numbers are, a layout keeps its texts.  A stack has a line for each text, in
order, and the rows of a node have the lines of its labels (`Layout.map_lines_ofNode`) and
the indices of its choices (`Layout.map_index_ofNode`).
-/

namespace Colloquy.Play

open Colloquy.Typeset (Shaper)

variable {α : Type}

theorem map_text_stack [Add α] (x lineHeight baseline : α) (texts : List String) :
    (stack x lineHeight baseline texts).map Line.text = texts := by
  induction texts generalizing baseline with
  | nil => rfl
  | cons text texts ih => rw [stack, List.map_cons, ih]

theorem length_stack [Add α] (x lineHeight baseline : α) (texts : List String) :
    (stack x lineHeight baseline texts).length = texts.length := by
  rw [← List.length_map (f := Line.text), map_text_stack]

namespace Layout

section Rows

variable [Add α] [Sub α] [Mul α] [Div α] [NatCast α]

theorem map_lines_rowsFrom (m : Metrics α) (index : Nat) (baseline : α)
    (labels : List (List String)) :
    (rowsFrom m index baseline labels).map (fun r => r.lines.map Line.text) = labels := by
  induction labels generalizing index baseline with
  | nil => rfl
  | cons texts labels ih => rw [rowsFrom, List.map_cons, ih, row, map_text_stack]

/-- Rows have the indices of their choices, in order. -/
theorem map_index_rowsFrom (m : Metrics α) (labels : List (List String)) :
    ∀ (index : Nat) (baseline : α),
      (rowsFrom m index baseline labels).map Row.index = List.range' index labels.length := by
  induction labels with
  | nil => exact fun index baseline => rfl
  | cons texts labels ih =>
      intro index baseline
      rw [rowsFrom, List.map_cons, ih, List.length_cons, List.range'_succ]
      rfl

end Rows

section Node

variable [Zero α] [Add α] [Sub α] [Mul α] [Div α] [NatCast α] [LE α] [DecidableLE α]
  (node : Script.Node) (shaper : Shaper α) (m : Metrics α) (viewport : Nat)
  (rules : Dialogue.Gating) (hasKey : Bool)

/-- The rows of a node have the lines of its labels. -/
theorem map_lines_ofNode :
    (ofNode node shaper m viewport rules hasKey).rows.map (fun r => r.lines.map Line.text) =
      node.choices.map fun c =>
        shaper.wrap (rules.shown hasKey c.label) (m.choiceWidth viewport) :=
  map_lines_rowsFrom ..

theorem length_rows_ofNode :
    (ofNode node shaper m viewport rules hasKey).rows.length = node.choices.length := by
  have h := congrArg List.length (map_lines_ofNode node shaper m viewport rules hasKey)
  rwa [List.length_map, List.length_map] at h

/-- A choice has a row with the lines of its label. -/
theorem exists_row_of_choice {index : Nat} {choice : Script.Choice}
    (h : node.choices[index]? = some choice) :
    ∃ row, (ofNode node shaper m viewport rules hasKey).rows[index]? = some row ∧
      row.lines.map Line.text =
        shaper.wrap (rules.shown hasKey choice.label) (m.choiceWidth viewport) := by
  have hlines := congrArg (fun l => l[index]?)
    (map_lines_ofNode node shaper m viewport rules hasKey)
  simp only [List.getElem?_map, h, Option.map_some] at hlines
  exact Option.map_eq_some_iff.1 hlines

/-- The rows of a node have the indices of its choices. -/
theorem map_index_ofNode :
    (ofNode node shaper m viewport rules hasKey).rows.map Row.index =
      List.range node.choices.length := by
  rw [ofNode, map_index_rowsFrom, List.length_map, List.range_eq_range']

end Node

end Layout

end Colloquy.Play
