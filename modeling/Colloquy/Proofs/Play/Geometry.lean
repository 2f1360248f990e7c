import Colloquy.Play.Layout
import Mathlib

/-!
# Where the lines of a layout are

With exact numbers the places of a layout have closed forms.  A line is as many
line heights below the first one as there are lines before it, and the row of a
choice starts half a line height above its first line.

So rows follow one another without a gap, and a baseline lies strictly inside
its row (`between_edges`).  A row is the first that holds its own baselines
(`find?_baseline`), though it shares an edge with the row above.
-/

namespace Colloquy.Play

/-! ## Lines one below the other -/

theorem below_eq (lineHeight baseline : ℚ) (n : Nat) :
    below lineHeight baseline n = baseline + n * lineHeight := by
  induction n generalizing baseline with
  | zero => simp [below]
  | succ n ih =>
      rw [below, ih]
      push_cast
      ring

/-- A line of a stack is some line heights below the first. -/
theorem exists_of_mem_stack {x lineHeight baseline : ℚ} {texts : List String} {line : Line ℚ}
    (h : line ∈ stack x lineHeight baseline texts) :
    ∃ k < texts.length, line.baseline = baseline + k * lineHeight := by
  induction texts generalizing baseline with
  | nil => cases h
  | cons text texts ih =>
      rw [stack] at h
      rcases List.mem_cons.1 h with rfl | h
      · exact ⟨0, by simp, by simp⟩
      · obtain ⟨k, hk, he⟩ := ih h
        refine ⟨k + 1, by simpa using hk, ?_⟩
        rw [he]
        push_cast
        ring

/-! ## Counting lines -/

/-- The number of lines of labels. -/
def lineCount (labels : List (List String)) : Nat := (labels.map List.length).sum

theorem lineCount_take_succ {labels : List (List String)} {k : Nat} {texts : List String}
    (h : labels[k]? = some texts) :
    lineCount (labels.take (k + 1)) = lineCount (labels.take k) + texts.length := by
  rw [List.take_add_one, h]
  simp [lineCount]

theorem lineCount_take_le (labels : List (List String)) {j k : Nat} (h : j ≤ k) :
    lineCount (labels.take j) ≤ lineCount (labels.take k) := by
  obtain ⟨d, rfl⟩ := Nat.exists_eq_add_of_le h
  rw [List.take_add]
  simp [lineCount]

namespace Layout

variable (m : Metrics ℚ)

/-! ## Rows -/

theorem top_row (index : Nat) (baseline : ℚ) (texts : List String) :
    (row m index baseline texts).top = baseline - m.lineHeight / 2 := by
  simp [row]

theorem bottom_row (index : Nat) (baseline : ℚ) (texts : List String) :
    (row m index baseline texts).bottom =
      baseline + texts.length * m.lineHeight - m.lineHeight / 2 := by
  simp only [row]
  push_cast
  ring

/-- The row of a choice starts as many line heights below the first row as there
are lines before it. -/
theorem getElem?_rowsFrom (labels : List (List String)) :
    ∀ (index : Nat) (baseline : ℚ) (k : Nat), (rowsFrom m index baseline labels)[k]? =
      labels[k]?.map fun texts =>
        row m (index + k) (baseline + lineCount (labels.take k) * m.lineHeight) texts := by
  induction labels with
  | nil => simp [rowsFrom]
  | cons texts labels ih =>
      intro index baseline k
      cases k with
      | zero => simp [rowsFrom, lineCount]
      | succ k =>
          rw [rowsFrom, List.getElem?_cons_succ, ih, List.getElem?_cons_succ, below_eq]
          have hcount : (lineCount ((texts :: labels).take (k + 1)) : ℚ) =
              texts.length + lineCount (labels.take k) := by
            simp [lineCount]
          rw [hcount, Nat.add_assoc, Nat.add_comm 1 k]
          congr 1
          funext texts'
          congr 1
          ring

/-- A baseline lies between the edges of its row. -/
theorem between_edges {index : Nat} {baseline : ℚ} {texts : List String} {line : Line ℚ}
    (hl : 0 < m.lineHeight) (h : line ∈ (row m index baseline texts).lines) :
    (row m index baseline texts).top < line.baseline ∧
      line.baseline < (row m index baseline texts).bottom := by
  obtain ⟨k, hk, he⟩ := exists_of_mem_stack h
  have hk' : (k : ℚ) + 1 ≤ texts.length := by exact_mod_cast hk
  have hk0 : (0 : ℚ) ≤ k := by exact_mod_cast Nat.zero_le k
  rw [top_row, bottom_row, he]
  constructor
  · nlinarith
  · nlinarith

/-- A row ends where a later one starts, or above it. -/
theorem bottom_le_top {index : Nat} {baseline : ℚ} {labels : List (List String)} {j k : Nat}
    {r s : Row ℚ} (hl : 0 ≤ m.lineHeight) (hjk : j < k)
    (hr : (rowsFrom m index baseline labels)[j]? = some r)
    (hs : (rowsFrom m index baseline labels)[k]? = some s) : r.bottom ≤ s.top := by
  rw [getElem?_rowsFrom] at hr hs
  obtain ⟨texts, ht, rfl⟩ := Option.map_eq_some_iff.1 hr
  obtain ⟨texts', ht', rfl⟩ := Option.map_eq_some_iff.1 hs
  have hcount := lineCount_take_le labels (Nat.succ_le_of_lt hjk)
  rw [Nat.succ_eq_add_one, lineCount_take_succ ht] at hcount
  have hcount' : (lineCount (labels.take j) : ℚ) + texts.length ≤ lineCount (labels.take k) := by
    exact_mod_cast hcount
  rw [bottom_row, top_row]
  nlinarith

/-- The first row lies above all others. -/
theorem top_le_of_mem {index : Nat} {baseline : ℚ} {labels : List (List String)} {r : Row ℚ}
    (hl : 0 ≤ m.lineHeight) (h : r ∈ rowsFrom m index baseline labels) :
    baseline - m.lineHeight / 2 ≤ r.top := by
  obtain ⟨k, hk⟩ := List.mem_iff_getElem?.1 h
  rw [getElem?_rowsFrom] at hk
  obtain ⟨texts, _, rfl⟩ := Option.map_eq_some_iff.1 hk
  have hcount : (0 : ℚ) ≤ lineCount (labels.take k) := Nat.cast_nonneg _
  rw [top_row]
  nlinarith

/-! ## What is at a height -/

theorem holds_iff {r : Row ℚ} {y : ℚ} : r.holds y = true ↔ r.top ≤ y ∧ y ≤ r.bottom := by
  simp [Row.holds]

/-- The choice at the baseline of a line is the one whose row the line is in. -/
theorem find?_baseline {index : Nat} {baseline : ℚ} {labels : List (List String)} {k : Nat}
    {r : Row ℚ} {line : Line ℚ} (hl : 0 < m.lineHeight)
    (hr : (rowsFrom m index baseline labels)[k]? = some r) (hline : line ∈ r.lines) :
    (rowsFrom m index baseline labels).find? (fun r => r.holds line.baseline) = some r := by
  have hedges : r.top < line.baseline ∧ line.baseline < r.bottom := by
    have hr' := hr
    rw [getElem?_rowsFrom] at hr'
    obtain ⟨texts, _, rfl⟩ := Option.map_eq_some_iff.1 hr'
    exact between_edges m hl hline
  obtain ⟨hlt, hget⟩ := List.getElem?_eq_some_iff.1 hr
  rw [List.find?_eq_some_iff_getElem]
  refine ⟨holds_iff.2 ⟨hedges.1.le, hedges.2.le⟩, k, hlt, hget, fun j hj => ?_⟩
  -- a row further up ends where this one starts, or before
  have hup := bottom_le_top m hl.le hj (List.getElem?_eq_getElem (hj.trans hlt)) hr
  rw [Bool.not_eq_true', Bool.eq_false_iff]
  intro hholds
  have hle := (holds_iff.1 hholds).2
  linarith [hedges.1]

end Layout

end Colloquy.Play
