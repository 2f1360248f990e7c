import Colloquy.Proofs.Play.Geometry
import Colloquy.Proofs.Typeset.Widening

/-!
# A wider viewport

In a wider viewport the body and every label have no more lines.  So no row comes
to stand further down (`wrap_and_rows_antitone`).  That takes a line height that is
not negative, and says nothing of the gap, which may be.
-/

namespace Colloquy.Play

open Colloquy.Typeset

namespace Metrics

variable (m : Metrics ℚ) {viewport viewport' : Nat}

theorem bodyWidth_mono (h : viewport ≤ viewport') :
    m.bodyWidth viewport ≤ m.bodyWidth viewport' := by
  have hcast : (viewport : ℚ) ≤ viewport' := by exact_mod_cast h
  simp only [bodyWidth]
  linarith

theorem choiceWidth_mono (h : viewport ≤ viewport') :
    m.choiceWidth viewport ≤ m.choiceWidth viewport' := by
  have hbody := m.bodyWidth_mono h
  simp only [choiceWidth]
  linarith

end Metrics

/-- Whether a row stands no further down than another, by both its edges. -/
def Row.NoLower (r s : Row ℚ) : Prop := r.top ≤ s.top ∧ r.bottom ≤ s.bottom

namespace Layout

variable (m : Metrics ℚ)

/-- Fewer lines leave the baseline behind them no further down. -/
theorem below_le {baseline baseline' : ℚ} {n n' : Nat} (hl : 0 ≤ m.lineHeight)
    (hb : baseline' ≤ baseline) (hn : n' ≤ n) :
    below m.lineHeight baseline' n' ≤ below m.lineHeight baseline n := by
  have hcast : (n' : ℚ) ≤ n := by exact_mod_cast hn
  rw [below_eq, below_eq]
  nlinarith

theorem row_noLower {index index' : Nat} {baseline baseline' : ℚ} {texts texts' : List String}
    (hl : 0 ≤ m.lineHeight) (hb : baseline' ≤ baseline) (hn : texts'.length ≤ texts.length) :
    (row m index' baseline' texts').NoLower (row m index baseline texts) := by
  have hbelow := below_le m hl hb hn
  rw [below_eq, below_eq] at hbelow
  constructor
  · rw [top_row, top_row]
    linarith
  · rw [bottom_row, bottom_row]
    linarith

/-- Where every label has no more lines no row stands further down. -/
theorem rowsFrom_noLower {labels labels' : List (List String)} {index : Nat}
    {baseline baseline' : ℚ} (hl : 0 ≤ m.lineHeight)
    (h : List.Forall₂ (fun texts texts' : List String => texts'.length ≤ texts.length) labels
      labels')
    (hb : baseline' ≤ baseline) :
    List.Forall₂ (fun r r' : Row ℚ => r'.NoLower r)
      (rowsFrom m index baseline labels) (rowsFrom m index baseline' labels') := by
  induction h generalizing index baseline baseline' with
  | nil => exact .nil
  | cons htexts _ ih => exact .cons (row_noLower m hl hb htexts) (ih (below_le m hl hb htexts))

end Layout

variable {shaper : Shaper ℚ}

/-- In a wider viewport no row of a node stands further down. -/
theorem rows_ofNode_noLower (hn : ∀ text, NonNeg (shaper text)) (node : Script.Node)
    (m : Metrics ℚ) (rules : Dialogue.Gating) (hasKey : Bool) {viewport viewport' : Nat}
    (hl : 0 ≤ m.lineHeight) (hv : viewport ≤ viewport') :
    List.Forall₂ (fun r r' : Row ℚ => r'.NoLower r)
      (Layout.ofNode node shaper m viewport rules hasKey).rows
      (Layout.ofNode node shaper m viewport' rules hasKey).rows := by
  simp only [Layout.ofNode]
  refine Layout.rowsFrom_noLower m hl ?_ ?_
  · rw [List.forall₂_map_left_iff, List.forall₂_map_right_iff, List.forall₂_same]
    intro c _
    exact length_wrap_le hn _ (m.choiceWidth_mono hv)
  · have hbody := length_wrap_le hn node.text (m.bodyWidth_mono hv)
    have hbelow := Layout.below_le m hl (le_refl m.startY) hbody
    linarith

/-- With more room a text has no more lines, and in a wider viewport no row of a node
stands further down. -/
theorem wrap_and_rows_antitone (hn : ∀ text, NonNeg (shaper text)) :
    (∀ (text : String) (width width' : ℚ), width ≤ width' →
      (shaper.wrap text width').length ≤ (shaper.wrap text width).length) ∧
    ∀ (node : Script.Node) (m : Metrics ℚ) (rules : Dialogue.Gating) (hasKey : Bool)
      (viewport viewport' : Nat), 0 ≤ m.lineHeight → viewport ≤ viewport' →
      List.Forall₂ (fun r r' : Row ℚ => r'.NoLower r)
        (Layout.ofNode node shaper m viewport rules hasKey).rows
        (Layout.ofNode node shaper m viewport' rules hasKey).rows := by
  constructor
  · intro text width width' hw
    exact length_wrap_le hn text hw
  · intro node m rules hasKey viewport viewport' hl hv
    exact rows_ofNode_noLower hn node m rules hasKey hl hv

/-- A shaper whose spaces are half as wide as its letters. -/
def letterpress : Shaper ℚ := perChar (fun c => if c = ' ' then 1 / 2 else 1) (· == ' ')

/-- A crossroads with two signs, one of them to be read with the key only. -/
def crossroads : Script.Node :=
  ⟨"crossroads", "Two signs, worn by\nthe rain.",
    [⟨"[LOCKED]To the old mill", "mill"⟩, ⟨"Back", "END"⟩]⟩

/-- What happens at the crossroads where a viewport becomes wider, to someone with
the key. -/
theorem wrap_and_rows_antitone_crossroads :
    (∀ text, NonNeg (letterpress text)) ∧
    (letterpress.wrap crossroads.text 9).length ≤ (letterpress.wrap crossroads.text 4).length ∧
    (0 : ℚ) ≤ 4 ∧
    List.Forall₂ (fun r r' : Row ℚ => r'.NoLower r)
      (Layout.ofNode crossroads letterpress ⟨1, 1, 10, 4, -3, 1⟩ 6 {} true).rows
      (Layout.ofNode crossroads letterpress ⟨1, 1, 10, 4, -3, 1⟩ 11 {} true).rows := by
  have hn : ∀ text, NonNeg (letterpress text) := by
    intro text
    refine nonNeg_perChar (fun c => ?_) _ text
    split <;> norm_num
  have hl : (0 : ℚ) ≤ 4 := by norm_num
  obtain ⟨hlines, hrows⟩ := wrap_and_rows_antitone hn
  exact ⟨hn, hlines crossroads.text 4 9 (by norm_num), hl,
    hrows crossroads ⟨1, 1, 10, 4, -3, 1⟩ {} true 6 11 hl (by norm_num)⟩

end Colloquy.Play
