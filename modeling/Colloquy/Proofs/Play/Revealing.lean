import Colloquy.Proofs.Dialogue.Labels
import Colloquy.Proofs.Play.Tiling
import Colloquy.Proofs.Typeset.Empty

/-!
# What the key changes of a layout

A player without the key sees a blank line for each locked choice, and a player with the key
sees its label.  That is all the key changes (`key_reveals`): the body and the open choices
have the lines they had.  A row only moves by the lines that locked choices before it hid,
those that are left of their labels after the first.  So nothing moves above the first locked
choice, and nothing moves up.
-/

namespace Colloquy.Play

open Colloquy.Script Colloquy.Typeset

/-- How many lines the locked ones among the first choices hide, given the rows of a player
with the key.  The first line of each does not count, since a blank one stands for it. -/
def hiddenLines (rules : Dialogue.Gating) (choices : List Choice) (rows : List (Row ℚ))
    (count : Nat) : ℚ :=
  ((((choices.zip rows).take count).filter fun p => rules.isLocked p.1.label).map
    fun p => (p.2.lines.length : ℚ) - 1).sum

theorem hiddenLines_succ (rules : Dialogue.Gating) (choice : Choice) (choices : List Choice)
    (row : Row ℚ) (rows : List (Row ℚ)) (count : Nat) :
    hiddenLines rules (choice :: choices) (row :: rows) (count + 1) =
      (if rules.isLocked choice.label then (row.lines.length : ℚ) - 1 else 0) +
        hiddenLines rules choices rows count := by
  by_cases h : rules.isLocked choice.label = true
  · simp [hiddenLines, h]
  · simp [hiddenLines, h]

theorem hiddenLines_of_open {rules : Dialogue.Gating} {choices : List Choice} {count : Nat}
    (h : ∀ choice ∈ choices.take count, rules.isLocked choice.label = false)
    (rows : List (Row ℚ)) : hiddenLines rules choices rows count = 0 := by
  have hnone : (((choices.zip rows).take count).filter fun p => rules.isLocked p.1.label) = [] := by
    rw [List.filter_eq_nil_iff]
    intro p hp
    rw [List.zip, List.take_zipWith] at hp
    rw [h p.1 (List.of_mem_zip hp).1]
    exact Bool.false_ne_true
  rw [hiddenLines, hnone]
  rfl

theorem hiddenLines_nonneg (rules : Dialogue.Gating) (choices : List Choice) {rows : List (Row ℚ)}
    (h : ∀ row ∈ rows, row.lines ≠ []) (count : Nat) :
    0 ≤ hiddenLines rules choices rows count := by
  refine List.sum_nonneg fun x hx => ?_
  obtain ⟨p, hp, rfl⟩ := List.mem_map.1 hx
  have hrow : p.2 ∈ rows :=
    (List.of_mem_zip (List.mem_of_mem_take (List.mem_of_mem_filter hp))).2
  have hlines : (1 : ℚ) ≤ p.2.lines.length := by
    exact_mod_cast List.length_pos_iff.2 (h p.2 hrow)
  linarith

/-- Labels of which the locked ones have one line without the key, and the open ones as many
as with it. -/
theorem lineCount_take_eq {rules : Dialogue.Gating} {blank full : Choice → List String}
    (hlocked : ∀ c : Choice, rules.isLocked c.label = true → (blank c).length = 1)
    (hopen : ∀ c : Choice, rules.isLocked c.label = false → full c = blank c) (m : Metrics ℚ)
    (choices : List Choice) : ∀ (index : Nat) (baseline : ℚ) (count : Nat),
      (lineCount ((choices.map full).take count) : ℚ) =
        lineCount ((choices.map blank).take count) +
          hiddenLines rules choices (Layout.rowsFrom m index baseline (choices.map full))
            count := by
  induction choices with
  | nil => simp [lineCount, hiddenLines]
  | cons c choices ih =>
      intro index baseline count
      cases count with
      | zero => simp [lineCount, hiddenLines]
      | succ count =>
          have hcons : ∀ f : Choice → List String,
              (lineCount (((c :: choices).map f).take (count + 1)) : ℚ) =
                (f c).length + lineCount ((choices.map f).take count) := by
            intro f
            simp [lineCount]
          have hrow : ∀ baseline, (Layout.row m index baseline (full c)).lines.length =
              (full c).length := fun _ => length_stack ..
          rw [hcons, hcons, List.map_cons, Layout.rowsFrom, hiddenLines_succ, hrow, ih]
          cases hc : rules.isLocked c.label with
          | true =>
              rw [if_pos rfl, hlocked c hc]
              push_cast
              ring
          | false =>
              rw [if_neg Bool.false_ne_true, hopen c hc]
              ring

/-- How the row of a choice changes when the player finds the key, given the lines that locked
choices before it hide. -/
structure Row.Changes (m : Metrics ℚ) (isLocked : Bool) (hidden : ℚ) (r r' : Row ℚ) : Prop where
  /-- An open choice keeps its lines. -/
  open_lines : isLocked = false → r'.lines.map Line.text = r.lines.map Line.text
  /-- The row of an open choice keeps its height. -/
  open_height : isLocked = false → r'.bottom - r'.top = r.bottom - r.top
  /-- A locked choice was one blank line. -/
  locked_lines : isLocked = true → r.lines.map Line.text = [""]
  /-- The row of a locked choice was as high as a line. -/
  locked_height : isLocked = true → r.bottom - r.top = m.lineHeight
  /-- The row goes down by the lines that were hidden. -/
  top : r'.top = r.top + m.lineHeight * hidden

section Node

variable (node : Node) {shaper : Shaper ℚ} (m : Metrics ℚ) (viewport : Nat)
  (rules : Dialogue.Gating)

theorem changes_of_getElem? (h : shaper "" = []) {index : Nat} {choice : Choice} {r r' : Row ℚ}
    (hc : node.choices[index]? = some choice)
    (hr : (Layout.ofNode node shaper m viewport rules false).rows[index]? = some r)
    (hr' : (Layout.ofNode node shaper m viewport rules true).rows[index]? = some r') :
    r.Changes m (rules.isLocked choice.label) (hiddenLines rules node.choices
      (Layout.ofNode node shaper m viewport rules true).rows index) r' := by
  obtain ⟨texts, htexts, rfl⟩ := exists_row_of_getElem? node shaper m viewport rules false hr
  obtain ⟨texts', htexts', rfl⟩ := exists_row_of_getElem? node shaper m viewport rules true hr'
  rw [labelsOf, List.getElem?_map, hc] at htexts htexts'
  obtain rfl : shaper.wrap (rules.shown false choice.label) (m.choiceWidth viewport) = texts :=
    Option.some.inj htexts
  obtain rfl : shaper.wrap (rules.shown true choice.label) (m.choiceWidth viewport) = texts' :=
    Option.some.inj htexts'
  have hblank : ∀ c : Choice, rules.isLocked c.label = true →
      shaper.wrap (rules.shown false c.label) (m.choiceWidth viewport) = [""] := fun c hl => by
    rw [Dialogue.Gating.shown_of_locked hl, wrap_empty h]
  have hsame : ∀ c : Choice, rules.isLocked c.label = false →
      shaper.wrap (rules.shown true c.label) (m.choiceWidth viewport) =
        shaper.wrap (rules.shown false c.label) (m.choiceWidth viewport) := fun c ho => by
    rw [Dialogue.Gating.shown_of_open ho, Dialogue.Gating.shown_of_open ho]
  have hcount := lineCount_take_eq (fun c hl => congrArg List.length (hblank c hl)) hsame m
    node.choices 0 (below m.lineHeight m.startY
      (shaper.wrap node.text (m.bodyWidth viewport)).length + m.choiceGap) index
  have hheight : ∀ (baseline : ℚ) (texts : List String),
      (Layout.row m index baseline texts).bottom - (Layout.row m index baseline texts).top =
        texts.length * m.lineHeight := by
    intro baseline texts
    rw [Layout.bottom_row, Layout.top_row]
    ring
  refine ⟨fun ho => ?_, fun ho => ?_, fun hl => ?_, fun hl => ?_, ?_⟩
  · rw [Layout.row, Layout.row, map_text_stack, map_text_stack, hsame choice ho]
  · rw [hheight, hheight, hsame choice ho]
  · rw [Layout.row, map_text_stack, hblank choice hl]
  · rw [hheight, hblank choice hl]
    simp
  · rw [Layout.top_row, Layout.top_row, labelsOf, labelsOf, hcount, Layout.ofNode]
    ring

/-- Finding the key changes nothing but what locked choices hid.  The body stays, and each row
changes as it should.  The rows of which none before is locked stay where they are, and where
lines go down no row moves up. -/
theorem key_reveals (h : shaper "" = []) :
    let blank := Layout.ofNode node shaper m viewport rules false
    let full := Layout.ofNode node shaper m viewport rules true
    full.body = blank.body ∧ blank.rows.length = node.choices.length ∧
    full.rows.length = node.choices.length ∧
    ∀ (index : Nat) (choice : Choice) (r r' : Row ℚ), node.choices[index]? = some choice →
      blank.rows[index]? = some r → full.rows[index]? = some r' →
      r.Changes m (rules.isLocked choice.label) (hiddenLines rules node.choices full.rows index)
        r' ∧
      ((∀ c ∈ node.choices.take index, rules.isLocked c.label = false) → r'.top = r.top) ∧
      (0 ≤ m.lineHeight → r.top ≤ r'.top) := by
  intro blank full
  refine ⟨rfl, Layout.length_rows_ofNode .., Layout.length_rows_ofNode .., ?_⟩
  intro index choice r r' hc hr hr'
  have hchanges := changes_of_getElem? node m viewport rules h hc hr hr'
  refine ⟨hchanges, fun ho => ?_, fun hl => ?_⟩
  · rw [hchanges.top, hiddenLines_of_open ho, mul_zero, add_zero]
  · have hlines := (placed_ofNode node shaper m viewport rules true).lines_ne_nil
    have hhidden := hiddenLines_nonneg rules node.choices hlines index
    rw [hchanges.top]
    nlinarith

end Node

/-- The lighthouse laid out for a player with the key. -/
def litLayout : Layout ℚ :=
  Layout.ofNode lighthouse (perChar (fun _ => 1) (· == ' ')) ⟨1, 1, 10, 5 / 2, -3, 1⟩ 12 {} true

/-- The way to the lamp takes two lines with the key, so the way down is a line further down. -/
theorem key_reveals_lighthouse :
    perChar (fun _ => (1 : ℚ)) (· == ' ') "" = [] ∧
    litLayout.body = lighthouseLayout.body ∧
    hiddenLines {} lighthouse.choices litLayout.rows 1 = 1 ∧
    ∃ r r', lighthouseLayout.rows[1]? = some r ∧ litLayout.rows[1]? = some r' ∧
      r.Changes ⟨1, 1, 10, 5 / 2, -3, 1⟩ false 1 r' ∧ (0 : ℚ) ≤ 5 / 2 ∧ r.top ≤ r'.top := by
  have h : perChar (fun _ => (1 : ℚ)) (· == ' ') "" = [] := rfl
  have hhidden : hiddenLines {} lighthouse.choices litLayout.rows 1 = 1 := by cbv
  have hl : (0 : ℚ) ≤ 5 / 2 := by norm_num
  obtain ⟨hbody, hcount, hcount', hrows⟩ :=
    key_reveals lighthouse ⟨1, 1, 10, 5 / 2, -3, 1⟩ 12 {} h
  have hr : lighthouseLayout.rows[1]? = some _ :=
    List.getElem?_eq_getElem (hcount ▸ (by decide : 1 < lighthouse.choices.length))
  have hr' : litLayout.rows[1]? = some _ :=
    List.getElem?_eq_getElem (hcount' ▸ (by decide : 1 < lighthouse.choices.length))
  obtain ⟨hchanges, -, hdown⟩ := hrows 1 _ _ _ rfl hr hr'
  have hone : Row.Changes ⟨1, 1, 10, 5 / 2, -3, 1⟩ false
      (hiddenLines {} lighthouse.choices litLayout.rows 1) _ _ := hchanges
  rw [hhidden] at hone
  exact ⟨h, hbody, hhidden, _, _, hr, hr', hone, hl, hdown hl⟩

end Colloquy.Play
