import Colloquy.Proofs.Dialogue.Actions
import Colloquy.Proofs.Play.Frames
import Colloquy.Proofs.Play.Geometry
import Colloquy.Proofs.Typeset.Empty
import Colloquy.Typeset.Simple

/-!
# What is clicked is what was drawn

Drawing and pointing each lay out the current node anew.  With exact numbers, a
positive line height and no negative gap they agree.  A pointer at the baseline
of a line of a choice acts on that choice, and a pointer at the baseline of a line
of the body acts on none, also where that line is empty (`pointer_follows_draw`).
-/

namespace Colloquy.Play.Mode

open Colloquy.Render Colloquy.Script Colloquy.Typeset

variable {S : Type} [Surface S ℚ]

/-! ## The choice at a line -/

/-- The layout of a mode is that of the node it is at. -/
theorem exists_node_of_layout? {m : Mode S ℚ} {viewport : Nat} {layout : Layout ℚ}
    (h : m.layout? viewport = some layout) :
    ∃ node, m.dialogue.node? m.cursor = some node ∧
      layout = Layout.ofNode node (Surface.shaper m.surface) m.settings.metrics viewport
        m.settings.gating m.cursor.key := by
  obtain ⟨node, hn, he⟩ := Option.map_eq_some_iff.1 h
  exact ⟨node, hn, he.symm⟩

/-- A row of a layout is that of a choice of the node, and has its index. -/
theorem row_of_choice {node : Node} {shaper : Shaper ℚ} {metrics : Metrics ℚ} {viewport : Nat}
    {rules : Dialogue.Gating} {key : Bool} {index : Nat} {row : Row ℚ}
    (h : (Layout.ofNode node shaper metrics viewport rules key).rows[index]? = some row) :
    row.index = index ∧ index < node.choices.length := by
  simp only [Layout.ofNode, Layout.getElem?_rowsFrom] at h
  obtain ⟨texts, ht, rfl⟩ := Option.map_eq_some_iff.1 h
  obtain ⟨hlt, _⟩ := List.getElem?_eq_some_iff.1 ht
  rw [List.length_map] at hlt
  exact ⟨Nat.zero_add index, hlt⟩

/-- No row is at the baseline of a line of the body. -/
theorem choiceAt?_body {node : Node} {shaper : Shaper ℚ} {metrics : Metrics ℚ} {viewport : Nat}
    {rules : Dialogue.Gating} {key : Bool} {line : Line ℚ} (hl : 0 < metrics.lineHeight)
    (hg : 0 ≤ metrics.choiceGap)
    (h : line ∈ (Layout.ofNode node shaper metrics viewport rules key).body) :
    (Layout.ofNode node shaper metrics viewport rules key).choiceAt? line.baseline = none := by
  rw [Layout.choiceAt?, Option.map_eq_none_iff, List.find?_eq_none]
  intro row hrow hholds
  have htop := Layout.top_le_of_mem metrics hl.le hrow
  obtain ⟨k, hk, he⟩ := exists_of_mem_stack h
  have hk' : (k : ℚ) + 1 ≤ (shaper.wrap node.text (metrics.bodyWidth viewport)).length := by
    exact_mod_cast hk
  have hle := (Layout.holds_iff.1 hholds).1
  rw [below_eq] at htop
  rw [he] at hle
  nlinarith

/-- The choice at the baseline of a line is the one whose row the line is in. -/
theorem choiceAt?_row {node : Node} {shaper : Shaper ℚ} {metrics : Metrics ℚ} {viewport : Nat}
    {rules : Dialogue.Gating} {key : Bool} {index : Nat} {row : Row ℚ} {line : Line ℚ}
    (hl : 0 < metrics.lineHeight)
    (hr : (Layout.ofNode node shaper metrics viewport rules key).rows[index]? = some row)
    (h : line ∈ row.lines) :
    (Layout.ofNode node shaper metrics viewport rules key).choiceAt? line.baseline =
      some index := by
  have hindex := (row_of_choice hr).1
  have hfind := Layout.find?_baseline metrics hl hr h
  rw [Layout.choiceAt?, ← hindex]
  exact Option.map_eq_some_iff.2 ⟨row, hfind, rfl⟩

/-- No choice is at the baseline of a line of the body, whether it is drawn or not. -/
theorem choiceAt?_of_mem_body {m : Mode S ℚ} (hl : 0 < m.settings.metrics.lineHeight)
    (hg : 0 ≤ m.settings.metrics.choiceGap) {viewport : Nat} {layout : Layout ℚ} {line : Line ℚ}
    (hlayout : m.layout? viewport = some layout) (hline : line ∈ layout.body) :
    m.choiceAt? line.baseline viewport = none := by
  rw [choiceAt?, hlayout]
  obtain ⟨node, _, rfl⟩ := exists_node_of_layout? hlayout
  exact choiceAt?_body hl hg hline

/-- The choice at the baseline of a line that a frame shows is the one that the line belongs
to. -/
theorem choiceAt?_of_shows {m : Mode S ℚ} (hl : 0 < m.settings.metrics.lineHeight)
    {viewport index : Nat} {line : Line ℚ} (h : m.Shows viewport (.choice index) line) :
    m.choiceAt? line.baseline viewport = some index := by
  cases h with
  | choice hlayout hrow hline _ =>
      rw [choiceAt?, hlayout]
      obtain ⟨node, _, rfl⟩ := exists_node_of_layout? hlayout
      exact choiceAt?_row hl hrow hline

/-- A choice that a frame shows can be selected. -/
theorem hasChoice_of_shows {m : Mode S ℚ} {viewport index : Nat} {line : Line ℚ}
    (h : m.Shows viewport (.choice index) line) : m.dialogue.hasChoice m.cursor index = true := by
  cases h with
  | choice hlayout hrow _ _ =>
      obtain ⟨node, hn, rfl⟩ := exists_node_of_layout? hlayout
      exact Dialogue.hasChoice_iff.2 ⟨node, hn, (row_of_choice hrow).2⟩

/-! ## The pointer -/

/-- A pointer at a height acts on a choice: moving there selects the choice, and
clicking there confirms it as well. -/
structure ActsOn (m : Mode S ℚ) (viewport : Nat) (y : ℚ) (index : Nat) : Prop where
  motion : ∀ x, (m.handle viewport (.motion x y)).value =
    (true, { m with cursor := m.dialogue.select m.cursor index })
  click : ∀ x, (m.handle viewport (.press .left x y)).value =
    (true, { m with
      cursor := (m.dialogue.confirm (m.dialogue.select m.cursor index)).value.2 })

/-- A pointer at a height acts on nothing and is not consumed. -/
structure Misses (m : Mode S ℚ) (viewport : Nat) (y : ℚ) : Prop where
  motion : ∀ x, (m.handle viewport (.motion x y)).value = (false, m)
  click : ∀ x, (m.handle viewport (.press .left x y)).value = (false, m)

theorem actsOn_of_choiceAt? {m : Mode S ℚ} {viewport index : Nat} {y : ℚ}
    (h : m.choiceAt? y viewport = some index)
    (hc : m.dialogue.hasChoice m.cursor index = true) : m.ActsOn viewport y index := by
  constructor
  · intro x
    simp only [handle, h, hc, Logged.value_pure]
  · intro x
    simp only [handle, h]
    rfl

theorem misses_of_choiceAt? {m : Mode S ℚ} {viewport : Nat} {y : ℚ}
    (h : m.choiceAt? y viewport = none) : m.Misses viewport y := by
  constructor
  · intro x
    simp only [handle, h, Logged.value_pure]
  · intro x
    simp only [handle, h, Logged.value_pure]

/-- A line that drawing asks the surface for is a line of the frame.  After that
frame a pointer at its baseline acts on the choice it belongs to.  At the baseline of
a line of the body the pointer misses, whether the line is empty or not, and so it does
everywhere if there is no node. -/
theorem pointer_follows_draw [Steady S] (m : Mode S ℚ)
    (hl : 0 < m.settings.metrics.lineHeight) (hg : 0 ≤ m.settings.metrics.choiceGap)
    (width height : Nat) :
    let m' := (m.draw width height).value.2
    (∀ text x y color, .text text x y color ∈ m.strokes width height →
      ∃ part, m.Shows width part ⟨text, x, y⟩) ∧
    (∀ index line, m.Shows width (.choice index) line → m'.ActsOn width line.baseline index) ∧
    (∀ layout, m.layout? width = some layout →
      ∀ line ∈ layout.body, m'.Misses width line.baseline) ∧
    (m.layout? width = none → ∀ y, m'.Misses width y) := by
  intro m'
  have hat (y : ℚ) : m'.choiceAt? y width = m.choiceAt? y width := by
    rw [choiceAt?, choiceAt?, layout?_draw]
  refine ⟨fun text x y color h => ?_, fun index line h => ?_, fun layout hlayout line hline => ?_,
    fun hnone y => ?_⟩
  · obtain ⟨part, hpart⟩ := exists_part_of_mem_strokes h
    exact ⟨part, shows_inPass.1 hpart⟩
  · -- drawing leaves the dialogue and the cursor as they are
    have hc : m.dialogue.hasChoice m.cursor index = true := hasChoice_of_shows h
    exact actsOn_of_choiceAt? ((hat _).trans (choiceAt?_of_shows hl h)) hc
  · exact misses_of_choiceAt? ((hat _).trans (choiceAt?_of_mem_body hl hg hlayout hline))
  · refine misses_of_choiceAt? ((hat y).trans ?_)
    rw [choiceAt?, hnone]
    rfl

/-- The shaper whose characters are all of width one. -/
def unitShaper : Shaper ℚ := perChar (fun _ => 1) (· == ' ')

/-- A hall with a locked way out above an open way up. -/
def hallNode : Node := ⟨"hall", "A hall.", [⟨"[LOCKED]Out", "END"⟩, ⟨"Go up", "hall"⟩]⟩

/-- A player in the hall, without the key. -/
def hall : Mode (Recorder ℚ) ℚ where
  settings := { metrics := ⟨1, 1, 10, 4, 3, 1⟩ }
  surface := { shaper := unitShaper }
  dialogue := ⟨⟨[hallNode], "hall"⟩, {}⟩
  cursor := { state := "hall" }
  scene := {}
  samples := []

theorem layout?_hall : hall.layout? 6 = some
    ⟨[⟨"A", 1, 10⟩, ⟨"hall", 1, 14⟩, ⟨".", 1, 18⟩],
      [⟨0, 23, 27, [⟨"", 2, 25⟩]⟩, ⟨1, 27, 35, [⟨"Go", 2, 29⟩, ⟨"up", 2, 33⟩]⟩]⟩ := by
  have hbody : unitShaper.wrap "A hall." 4 = ["A", "hall", "."] := by cbv
  have hout : unitShaper.wrap "" 3 = [""] := by cbv
  have hup : unitShaper.wrap "Go up" 3 = ["Go", "up"] := by cbv
  have hlocked : ({} : Dialogue.Gating).shown false "[LOCKED]Out" = "" := by decide
  have hopen : ({} : Dialogue.Gating).shown false "Go up" = "Go up" := by decide
  have hwidth : (6 : ℚ) - 1 - 1 = 4 := by norm_num
  have hwidth' : (4 : ℚ) - 1 = 3 := by norm_num
  show some (Layout.ofNode hallNode unitShaper ⟨1, 1, 10, 4, 3, 1⟩ 6 {} false) = _
  simp only [Layout.ofNode, hallNode, Metrics.choiceWidth, Metrics.bodyWidth, Nat.cast_ofNat,
    List.map_cons, List.map_nil, hlocked, hopen, hwidth, hwidth', hbody, hout, hup]
  norm_num [Layout.rowsFrom, Layout.row, stack, below]

/-- The way out draws nothing.  It is selected, so all that is drawn is black. -/
theorem picture_hall : hall.picture 6 =
    [(⟨"A", 1, 10⟩, ⟨0.0, 0.0, 0.0⟩), (⟨"hall", 1, 14⟩, ⟨0.0, 0.0, 0.0⟩),
      (⟨".", 1, 18⟩, ⟨0.0, 0.0, 0.0⟩), (⟨"Go", 2, 29⟩, ⟨0.0, 0.0, 0.0⟩),
      (⟨"up", 2, 33⟩, ⟨0.0, 0.0, 0.0⟩)] := by
  rw [picture, inked, parts, layout?_hall]
  rfl

theorem strokes_hall : hall.strokes 6 6 =
    .clear ⟨⟨0.96, 0.87, 0.70⟩, 1.0⟩ :: .start 6 6 ::
      ((hall.picture 6).map textStroke ++ [.finish]) := by
  rw [strokes_of_ok (draw_of_faultless ⟨rfl, fun _ => rfl⟩ 6 6).1, picture_inPass]
  rfl

/-- The hall with nothing to say about it.  Its body is one empty line. -/
def silentHall : Mode (Recorder ℚ) ℚ :=
  { hall with dialogue := ⟨⟨[{ hallNode with text := "" }], "hall"⟩, {}⟩ }

theorem exists_layout?_silentHall :
    ∃ layout, silentHall.layout? 6 = some layout ∧ layout.body = [⟨"", 1, 10⟩] := by
  have hwrap : unitShaper.wrap "" (silentHall.settings.metrics.bodyWidth 6) = [""] :=
    wrap_empty rfl _
  exact ⟨_, rfl, congrArg (stack 1 4 10) hwrap⟩

/-- A pointer at the second line of the way up, which is drawn, acts on it, and one at a line of
the body misses, also if there is nothing in it. -/
theorem pointer_follows_draw_hall :
    0 < hall.settings.metrics.lineHeight ∧ 0 ≤ hall.settings.metrics.choiceGap ∧
    .text "up" 2 33 ⟨0.0, 0.0, 0.0⟩ ∈ hall.strokes 6 6 ∧
    hall.Shows 6 (.choice 1) ⟨"up", 2, 33⟩ ∧ (hall.draw 6 6).value.2.ActsOn 6 33 1 ∧
    .text "hall" 1 14 ⟨0.0, 0.0, 0.0⟩ ∈ hall.strokes 6 6 ∧
    hall.Shows 6 .body ⟨"hall", 1, 14⟩ ∧ (hall.draw 6 6).value.2.Misses 6 14 ∧
    (∃ layout, silentHall.layout? 6 = some layout ∧ layout.body = [⟨"", 1, 10⟩]) ∧
    (silentHall.draw 6 6).value.2.Misses 6 10 := by
  have hl : 0 < hall.settings.metrics.lineHeight := by norm_num [hall]
  have hg : 0 ≤ hall.settings.metrics.choiceGap := by norm_num [hall]
  have hup : hall.Shows 6 (.choice 1) ⟨"up", 2, 33⟩ :=
    .choice layout?_hall rfl (.tail _ (.head _)) (by decide)
  have hbody : hall.Shows 6 .body ⟨"hall", 1, 14⟩ :=
    .body layout?_hall (.tail _ (.head _)) (by decide)
  obtain ⟨_, hacts, hmisses, _⟩ := pointer_follows_draw hall hl hg 6 6
  obtain ⟨_, _, hsilent, _⟩ := pointer_follows_draw silentHall hl hg 6 6
  obtain ⟨layout, hlayout, hempty⟩ := exists_layout?_silentHall
  refine ⟨hl, hg, ?_, hup, hacts 1 _ hup, ?_, hbody,
    hmisses _ layout?_hall ⟨"hall", 1, 14⟩ (.tail _ (.head _)), ⟨layout, hlayout, hempty⟩,
    hsilent layout hlayout ⟨"", 1, 10⟩ (hempty ▸ List.mem_singleton_self _)⟩
  · rw [strokes_hall, picture_hall]
    simp [textStroke]
  · rw [strokes_hall, picture_hall]
    simp [textStroke]

end Colloquy.Play.Mode
